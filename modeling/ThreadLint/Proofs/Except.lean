import ThreadLint.Fault

/-!
This module contains how results that may be faults are taken apart, where the parts of a computation
that has a result have results too, and which faults a computation promises not to end in.
-/

namespace ThreadLint

/-! ### Results -/

variable {ε α β : Type}

theorem bind_eq_ok {result : Except ε α} {next : α → Except ε β} {b : β} :
    (result >>= next) = .ok b ↔ ∃ a, result = .ok a ∧ next a = .ok b := by
  cases result with
  | error fault => simp [bind, Except.bind]
  | ok a => simp [bind, Except.bind]

theorem bind_eq_error {result : Except ε α} {next : α → Except ε β} {fault : ε} :
    (result >>= next) = .error fault ↔
      result = .error fault ∨ ∃ a, result = .ok a ∧ next a = .error fault := by
  cases result with
  | error fault => simp [bind, Except.bind]
  | ok a => simp [bind, Except.bind]

/-- A step that throws under a condition has a result only if the condition does not hold. -/
theorem throw_unless_eq_ok {c : Prop} [Decidable c] {error : ε} {next : Unit → Except ε β} {b : β} :
    (if c then throw error >>= next else next ()) = .ok b ↔ ¬ c ∧ next () = .ok b := by
  split
  . next h => simp [h, bind, Except.bind, throw, throwThe, MonadExceptOf.throw]
  . next h => simp [h]

/-- Such a step has its own fault under the condition, and else that of the next step. -/
theorem throw_unless_eq_error {c : Prop} [Decidable c] {error fault : ε}
    {next : Unit → Except ε β} :
    (if c then throw error >>= next else next ()) = .error fault ↔
      c ∧ error = fault ∨ ¬ c ∧ next () = .error fault := by
  split
  . next h => simp [h, bind, Except.bind, throw, throwThe, MonadExceptOf.throw]
  . next h => simp [h]

theorem map_eq_ok {result : Except ε α} {f : α → β} {b : β} :
    result.map f = .ok b ↔ ∃ a, result = .ok a ∧ f a = b := by
  cases result with
  | error fault => simp [Except.map]
  | ok a => simp [Except.map]

theorem map_eq_error {result : Except ε α} {f : α → β} {fault : ε} :
    result.map f = .error fault ↔ result = .error fault := by
  cases result with
  | error fault => simp [Except.map]
  | ok a => simp [Except.map]

section

variable {δ : Type} {f : ε → δ}

@[simp]
theorem mapError_ok (a : α) : (Except.ok a : Except ε α).mapError f = .ok a :=
  rfl

@[simp]
theorem mapError_error (fault : ε) : (Except.error fault : Except ε α).mapError f = .error (f fault) :=
  rfl

theorem mapError_eq_ok {result : Except ε α} {a : α} :
    result.mapError f = .ok a ↔ result = .ok a := by
  cases result with
  | error fault => simp
  | ok a => simp

theorem mapError_eq_error {result : Except ε α} {fault : δ} :
    result.mapError f = .error fault ↔ ∃ found, result = .error found ∧ f found = fault := by
  cases result with
  | error found => simp
  | ok a => simp

end

theorem eq_ok_of_toOption {result : Except ε α} {a : α} (h : result.toOption = some a) :
    result = .ok a := by
  cases result with
  | error fault => simp [Except.toOption] at h
  | ok b =>
    cases h
    rfl

theorem toOption_bind (result : Except ε α) (next : α → Except ε β) :
    (result >>= next).toOption = result.toOption.bind fun a => (next a).toOption := by
  cases result with
  | error fault => rfl
  | ok a => rfl

theorem toOption_mapError {δ : Type} (result : Except ε α) (f : ε → δ) :
    (result.mapError f).toOption = result.toOption := by
  cases result with
  | error fault => rfl
  | ok a => rfl

theorem exists_mapM_eq_ok {f : α → Except ε β} {items : List α} :
    (∃ results, items.mapM f = .ok results) ↔ ∀ a ∈ items, ∃ b, f a = .ok b := by
  induction items with
  | nil => exact ⟨fun _ => by simp, fun _ => ⟨[], rfl⟩⟩
  | cons item rest ih =>
    rw [List.forall_mem_cons, ← ih]
    constructor
    . rintro ⟨results, h⟩
      rw [List.mapM_cons, bind_eq_ok] at h
      obtain ⟨first, hfirst, h⟩ := h
      obtain ⟨others, hothers, _⟩ := bind_eq_ok.1 h
      exact ⟨⟨first, hfirst⟩, others, hothers⟩
    . rintro ⟨⟨first, hfirst⟩, others, hothers⟩
      refine ⟨first :: others, ?_⟩
      rw [List.mapM_cons, hfirst, hothers]
      rfl

theorem exists_of_mem_mapM {f : α → Except ε β} {items : List α} {results : List β}
    (h : items.mapM f = .ok results) : ∀ b ∈ results, ∃ a ∈ items, f a = .ok b := by
  induction items generalizing results with
  | nil =>
    cases h
    simp
  | cons a items ih =>
    rw [List.mapM_cons] at h
    obtain ⟨first, hfirst, h⟩ := bind_eq_ok.1 h
    obtain ⟨rest, hrest, h⟩ := bind_eq_ok.1 h
    cases h
    intro b hb
    rw [List.mem_cons] at hb
    cases hb with
    | inl heq =>
      rw [heq]
      exact ⟨a, List.mem_cons_self, hfirst⟩
    | inr hmem =>
      obtain ⟨a', hmem, ha'⟩ := ih hrest b hmem
      exact ⟨a', List.mem_cons_of_mem _ hmem, ha'⟩

theorem exists_mem_of_mapM {f : α → Except ε β} {items : List α} {results : List β}
    (h : items.mapM f = .ok results) : ∀ a ∈ items, ∃ b ∈ results, f a = .ok b := by
  induction items generalizing results with
  | nil => simp
  | cons item items ih =>
    rw [List.mapM_cons] at h
    obtain ⟨first, hfirst, h⟩ := bind_eq_ok.1 h
    obtain ⟨rest, hrest, h⟩ := bind_eq_ok.1 h
    cases h
    intro a ha
    rw [List.mem_cons] at ha
    cases ha with
    | inl heq =>
      rw [heq]
      exact ⟨first, List.mem_cons_self, hfirst⟩
    | inr hmem =>
      obtain ⟨b, hb, hab⟩ := ih hrest a hmem
      exact ⟨b, List.mem_cons_of_mem _ hb, hab⟩

/-- What is true of items that come one behind the other is true of their results. -/
theorem pairwise_of_mapM {f : α → Except ε β} {items : List α} {results : List β}
    {R : α → α → Prop} {S : β → β → Prop} (h : items.mapM f = .ok results)
    (hitems : items.Pairwise R)
    (hresults : ∀ a ∈ items, ∀ a' ∈ items, R a a' → ∀ b b', f a = .ok b → f a' = .ok b' → S b b') :
    results.Pairwise S := by
  induction items generalizing results with
  | nil =>
    cases h
    exact .nil
  | cons item items ih =>
    rw [List.mapM_cons] at h
    obtain ⟨first, hfirst, h⟩ := bind_eq_ok.1 h
    obtain ⟨rest, hrest, h⟩ := bind_eq_ok.1 h
    cases h
    rw [List.pairwise_cons] at hitems
    refine List.Pairwise.cons ?_ (ih hrest hitems.2 ?_)
    . intro b hb
      obtain ⟨a, ha, hab⟩ := exists_of_mem_mapM hrest b hb
      exact hresults item List.mem_cons_self a (List.mem_cons_of_mem _ ha) (hitems.1 a ha) first b
        hfirst hab
    . intro a ha a' ha'
      exact hresults a (List.mem_cons_of_mem _ ha) a' (List.mem_cons_of_mem _ ha')

/-- Checks of items succeed together if each of them does. -/
theorem forM_eq_ok {f : α → Except ε Unit} {items : List α} :
    items.forM f = .ok () ↔ ∀ a ∈ items, f a = .ok () := by
  induction items with
  | nil => simp [pure, Except.pure]
  | cons a items ih =>
    show (f a >>= fun _ => items.forM f) = .ok () ↔ _
    rw [bind_eq_ok, List.forall_mem_cons, ← ih]
    exact ⟨fun ⟨_, ha, hitems⟩ => ⟨ha, hitems⟩, fun ⟨ha, hitems⟩ => ⟨(), ha, hitems⟩⟩

theorem exists_eq_ok {result : Except ε α} (h : result.isOk = true) : ∃ a, result = .ok a := by
  cases result with
  | error fault => simp [Except.isOk, Except.toBool] at h
  | ok a => exact ⟨a, rfl⟩

/-! ### Promises -/

/--
Whether a fault says that a promise about findings is broken.
-/
def Fault.isPromise : Fault → Bool
  | .promise .. => true
  | _ => false

/--
Whether a computation breaks no promise and its result, if it has one, is as expected.
-/
def Keeps (P : α → Prop) : Except Fault α → Prop
  | .ok a => P a
  | .error fault => fault.isPromise = false

namespace Keeps

variable {P : α → Prop} {Q : β → Prop} {result : Except Fault α}

theorem pure {a : α} (h : P a) : Keeps P (Pure.pure a) :=
  h

theorem throw {fault : Fault} (h : fault.isPromise = false) :
    Keeps P (MonadExcept.throw fault : Except Fault α) :=
  h

theorem of_eq_ok {a : α} (h : Keeps P result) (hok : result = .ok a) : P a := by
  rw [hok] at h
  exact h

theorem isPromise_eq_false {fault : Fault} (h : Keeps P result) (herror : result = .error fault) :
    fault.isPromise = false := by
  rw [herror] at h
  exact h

theorem mono {P' : α → Prop} (h : Keeps P result) (hmono : ∀ a, P a → P' a) : Keeps P' result := by
  cases result with
  | error fault => exact h
  | ok a => exact hmono a h

theorem bind {next : α → Except Fault β} (h : Keeps P result)
    (hnext : ∀ a, P a → Keeps Q (next a)) : Keeps Q (result >>= next) := by
  cases result with
  | error fault => exact h
  | ok a => exact hnext a h

theorem map {f : α → β} (h : Keeps P result) (hmap : ∀ a, P a → Q (f a)) :
    Keeps Q (f <$> result) := by
  cases result with
  | error fault => exact h
  | ok a => exact hmap a h

theorem ite {c : Prop} [Decidable c] {first second : Except Fault α} (hfirst : c → Keeps P first)
    (hsecond : ¬ c → Keeps P second) : Keeps P (if c then first else second) := by
  split
  . next h => exact hfirst h
  . next h => exact hsecond h

theorem mapError {ε : Type} {result : Except ε α} {f : ε → Fault}
    (hok : ∀ a, result = .ok a → P a)
    (herror : ∀ error, result = .error error → (f error).isPromise = false) :
    Keeps P (result.mapError f) := by
  cases result with
  | error error => exact herror error rfl
  | ok a => exact hok a rfl

theorem mapM {f : α → Except Fault β} {items : List α} (h : ∀ a ∈ items, Keeps Q (f a)) :
    Keeps (fun results => ∀ b ∈ results, Q b) (items.mapM f) := by
  induction items with
  | nil =>
    apply Keeps.pure
    simp
  | cons a items ih =>
    rw [List.mapM_cons]
    apply (h a List.mem_cons_self).bind
    intro b hb
    apply (ih fun a ha => h a (List.mem_cons_of_mem _ ha)).bind
    intro results hresults
    apply Keeps.pure
    intro b' hb'
    rw [List.mem_cons] at hb'
    cases hb' with
    | inl heq =>
      rw [heq]
      exact hb
    | inr hmem => exact hresults b' hmem

theorem mapM_option {f : α → Except Fault β} {item : Option α} (h : ∀ a ∈ item, Keeps Q (f a)) :
    Keeps (fun result => ∀ b ∈ result, Q b) (item.mapM f) := by
  cases item with
  | none =>
    apply Keeps.pure
    simp
  | some a =>
    apply (h a rfl).map
    intro b hb b' hb'
    cases hb'
    exact hb

theorem forM {f : α → Except Fault Unit} {items : List α}
    (h : ∀ a ∈ items, Keeps (fun _ => True) (f a)) : Keeps (fun _ => True) (items.forM f) := by
  induction items with
  | nil => exact Keeps.pure trivial
  | cons a items ih =>
    show Keeps (fun _ => True) (f a >>= fun _ => items.forM f)
    apply (h a List.mem_cons_self).bind
    intro _ _
    exact ih fun a ha => h a (List.mem_cons_of_mem _ ha)

theorem foldlM {I : β → Prop} {f : β → α → Except Fault β} {items : List α} {start : β}
    (hstart : I start) (h : ∀ b a, a ∈ items → I b → Keeps I (f b a)) :
    Keeps I (items.foldlM f start) := by
  induction items generalizing start with
  | nil => exact Keeps.pure hstart
  | cons a items ih =>
    rw [List.foldlM_cons]
    apply (h start a List.mem_cons_self hstart).bind
    intro next hnext
    exact ih hnext fun b a ha => h b a (List.mem_cons_of_mem _ ha)

end Keeps

end ThreadLint
