import ThreadLint.Proofs.Grammar

/-!
This module contains when the members of a text do not fit. What is not understood is passed over,
so that they fit unless the reader comes to attributes of the whole file, which have a target in
front and must be understood.
-/

namespace ThreadLint.Parser

variable {α β σ : Type}

/-! ### Parsers that always fit -/

/--
Whether a parser never finds that the tokens do not fit.
-/
def Lenient (parser : Parser α) : Prop :=
  ∀ tokens cursor, parser tokens cursor ≠ .error .mismatch

namespace Lenient

variable {parser : Parser α} {rest : α → Parser β}

theorem bind (h : Lenient parser) (hrest : ∀ a, Lenient (rest a)) : Lenient (parser >>= rest) := by
  intro tokens cursor heq
  simp only [Bind.bind] at heq
  split at heq
  . next a next hparser => exact hrest a tokens next heq
  . next stop hparser =>
    cases heq
    exact h tokens cursor hparser

theorem ite {b : Prop} [Decidable b] {other : Parser α} (h : Lenient parser) (hother : Lenient other) :
    Lenient (if b then parser else other) := by
  split
  . exact h
  . exact hother

theorem pure (a : α) : Lenient (pure a) := by
  intro tokens cursor heq
  cases heq

theorem here : Lenient here := by
  intro tokens cursor heq
  cases heq

theorem seek (target : Nat) : Lenient (seek target) := by
  intro tokens cursor heq
  cases heq

theorem stopWith {stop : Stop} (h : stop ≠ .mismatch) : Lenient (stopWith stop : Parser α) := by
  intro tokens cursor heq
  cases heq
  exact h rfl

theorem tokenNumber (index : Nat) : Lenient (tokenNumber index) := by
  intro tokens cursor heq
  unfold Parser.tokenNumber at heq
  split at heq
  . cases heq
  . cases heq

theorem current : Lenient current :=
  bind here fun cursor => tokenNumber cursor

theorem advance : Lenient advance :=
  bind current fun _ => ite (pure _) (bind here fun _ => bind (seek _) fun _ => pure _)

theorem lastStop : Lenient lastStop :=
  bind here fun _ => ite (pure _) (bind (tokenNumber _) fun _ => pure _)

theorem closing? (index : Nat) : Lenient (closing? index) := by
  refine bind (tokenNumber index) fun _ => ite ?_ (stopWith (by decide))
  intro tokens cursor heq
  cases heq

theorem skipGroup : Lenient skipGroup := by
  refine bind here fun _ => bind (closing? _) ?_
  intro closer
  cases closer with
  | some closer => exact seek _
  | none =>
    intro tokens cursor heq
    cases heq

theorem attempt : Lenient (attempt parser) := by
  intro tokens cursor heq
  unfold Parser.attempt at heq
  split at heq
  . cases heq
  . cases heq
  . next hne _ =>
    cases heq
    exact hne rfl

theorem accept (text : String) : Lenient (accept text) :=
  bind (bind current fun _ => pure _) fun _ =>
    ite (bind advance fun _ => pure _) (pure _)

theorem node (form : Form) (first : Nat) (children : List Node) : Lenient (node form first children) :=
  bind (tokenNumber first) fun _ => bind here fun _ => bind lastStop fun _ =>
    ite (pure _) (stopWith (by decide))

theorem loopAtMost {step : σ → Parser (Progress σ β)} (hstep : ∀ state, Lenient (step state))
    (bound : Nat) (state : σ) : Lenient (loopAtMost step bound state) := by
  induction bound generalizing state with
  | zero =>
    intro tokens cursor heq
    cases heq
  | succ bound ih =>
    unfold Parser.loopAtMost
    apply bind (hstep state)
    intro progress
    cases progress with
    | more state => exact ih state
    | done result => exact pure result

theorem loop {step : σ → Parser (Progress σ β)} (hstep : ∀ state, Lenient (step state))
    (state : σ) : Lenient (loop step state) :=
  fun tokens cursor => loopAtMost hstep _ state tokens cursor

theorem skipConstruct (first : Nat) (keyword : String) : Lenient (skipConstruct first keyword) := by
  unfold Parser.skipConstruct
  apply bind (seek first)
  intro _
  refine bind (loop ?_ ()) ?_
  . intro _
    apply bind current
    intro token
    apply ite
    . exact pure _
    apply ite
    . exact bind advance fun _ => pure _
    apply ite
    . apply bind skipGroup
      intro _
      exact ite (bind (accept _) fun _ => pure _) (pure _)
    . exact bind advance fun _ => pure _
  . intro _
    apply bind here
    intro _
    apply ite
    . exact bind advance fun _ => node _ _ _
    . exact node _ _ _

end Lenient

/-! ### Items behind each other -/

/--
Whether a parser reads items, one behind the other, from an index up to another one.
-/
inductive Reaches (tokens : Array Token) (goesOn : Token → Bool) (item : Parser α) :
    Nat → Nat → Prop where
  | refl {index : Nat} : Reaches tokens goesOn item index index
  | step {first next index : Nat} {a : α}
    (allowed : goesOn (tokenAt tokens first) = true)
    (read : item tokens first = .ok (a, next))
    (further : Reaches tokens goesOn item next index) :
    Reaches tokens goesOn item first index

section

variable {tokens : Array Token} {goesOn : Token → Bool} {item : Parser α}

theorem takeItem_eq (cursor : Nat) (found : List α) :
    takeItem goesOn item found tokens cursor =
      if tokens.size ≤ cursor then .error .beyond
      else if goesOn (tokenAt tokens cursor) = true then
        match item tokens cursor with
        | .ok (a, next) => .ok (.more (a :: found), next)
        | .error stop => .error stop
      else .ok (.done found.reverse, cursor) := by
  unfold takeItem
  by_cases hcursor : tokens.size ≤ cursor
  . have hcurrent : current tokens cursor = .error .beyond := if_neg (Nat.not_lt.2 hcursor)
    rw [if_pos hcursor]
    simp only [Bind.bind, hcurrent]
  . have hcurrent : current tokens cursor = .ok (tokenAt tokens cursor, cursor) :=
      if_pos (Nat.lt_of_not_le hcursor)
    rw [if_neg hcursor, bind_eq_of_eq_ok hcurrent]
    by_cases h : goesOn (tokenAt tokens cursor) = true
    . rw [if_pos h, if_pos h]
      rfl
    . rw [if_neg h, if_neg h]
      rfl

theorem loopAtMost_takeItem (bound cursor : Nat) (found : List α) :
    loopAtMost (takeItem goesOn item) (bound + 1) found tokens cursor =
      if tokens.size ≤ cursor then .error .beyond
      else if goesOn (tokenAt tokens cursor) = true then
        match item tokens cursor with
        | .ok (a, next) => loopAtMost (takeItem goesOn item) bound (a :: found) tokens next
        | .error stop => .error stop
      else .ok (found.reverse, cursor) := by
  rw [loopAtMost.eq_2]
  simp only [Bind.bind]
  rw [takeItem_eq]
  by_cases hcursor : tokens.size ≤ cursor
  . rw [if_pos hcursor, if_pos hcursor]
  rw [if_neg hcursor, if_neg hcursor]
  by_cases h : goesOn (tokenAt tokens cursor) = true
  . rw [if_pos h, if_pos h]
    cases item tokens cursor with
    | error stop => rfl
    | ok result => rfl
  . rw [if_neg h, if_neg h]
    rfl

theorem exists_of_loopAtMost_mismatch {bound cursor : Nat} {found : List α}
    (h : loopAtMost (takeItem goesOn item) bound found tokens cursor = .error .mismatch) :
    ∃ index, Reaches tokens goesOn item cursor index ∧ goesOn (tokenAt tokens index) = true ∧
      item tokens index = .error .mismatch := by
  induction bound generalizing cursor found with
  | zero => cases h
  | succ bound ih =>
    rw [loopAtMost_takeItem] at h
    split at h
    . cases h
    . split at h
      . next hallowed =>
        split at h
        . next a next hread =>
          obtain ⟨index, hreaches, hmismatch⟩ := ih h
          exact ⟨index, .step hallowed hread hreaches, hmismatch⟩
        . next stop hstop =>
          cases h
          exact ⟨cursor, .refl, hallowed, hstop⟩
      . cases h

theorem Reaches.loopAtMost_eq {cursor index : Nat} (h : Reaches tokens goesOn item cursor index)
    (hallowed : goesOn (tokenAt tokens index) = true)
    (hmismatch : item tokens index = .error .mismatch) (bound : Nat) (found : List α) :
    ∃ stop, loopAtMost (takeItem goesOn item) bound found tokens cursor = .error stop := by
  induction h generalizing bound found with
  | refl =>
    cases bound with
    | zero => exact ⟨_, rfl⟩
    | succ bound =>
      rw [loopAtMost_takeItem, if_pos hallowed, hmismatch]
      split
      . exact ⟨_, rfl⟩
      . exact ⟨_, rfl⟩
  | step hfirst hread _ ih =>
    cases bound with
    | zero => exact ⟨_, rfl⟩
    | succ bound =>
      rw [loopAtMost_takeItem, if_pos hfirst, hread]
      split
      . exact ⟨_, rfl⟩
      . exact ih hallowed hmismatch bound _

/-- Items do not fit exactly if the reader comes to one of them that does not. -/
theorem manyWhile_eq_mismatch_iff {cursor : Nat}
    (h : ∀ stop, manyWhile goesOn item tokens cursor = .error stop → stop = .mismatch) :
    manyWhile goesOn item tokens cursor = .error .mismatch ↔
      ∃ index, Reaches tokens goesOn item cursor index ∧ goesOn (tokenAt tokens index) = true ∧
        item tokens index = .error .mismatch := by
  constructor
  . exact exists_of_loopAtMost_mismatch
  . intro ⟨index, hreaches, hallowed, hmismatch⟩
    obtain ⟨stop, hstop⟩ := hreaches.loopAtMost_eq hallowed hmismatch (tokens.size - cursor + 1) []
    have hstop : manyWhile goesOn item tokens cursor = .error stop := hstop
    rw [hstop, h stop hstop]

end

/-! ### The members of a text -/

theorem memberGroup_eq_mismatch_iff {g : Grammar} {tokens : Array Token} [Lawful tokens]
    {index : Nat} :
    memberGroup g none tokens index = .error .mismatch ↔
      (tokenAt tokens index).isPunct ["["] = true ∧
        (tokenAt tokens (index + 2)).isPunct [":"] = true ∧
          attributeLists g tokens index = .error .mismatch := by
  by_cases hindex : tokens.size ≤ index
  . have hcurrent : current tokens index = .error .beyond := if_neg (Nat.not_lt.2 hindex)
    have heq : memberGroup g none tokens index = .error .beyond := by
      unfold memberGroup atPunct
      simp only [Bind.bind, hcurrent]
    have hlast : last tokens < tokens.size := last_lt_size
    constructor
    . intro hmismatch
      rw [heq] at hmismatch
      cases hmismatch
    . intro hmismatch
      have := lt_last_of_isPunct hmismatch.1
      omega
  have hpunct : atPunct ["["] tokens index = .ok ((tokenAt tokens index).isPunct ["["], index) :=
    bind_eq_of_eq_ok (show current tokens index = .ok (tokenAt tokens index, index) from
      if_pos (Nat.lt_of_not_le hindex))
  have hpeek : peek 2 tokens index = .ok (tokenAt tokens (index + 2), index) :=
    rfl
  unfold memberGroup
  rw [bind_eq_of_eq_ok hpunct, bind_eq_of_eq_ok hpeek, Option.isNone_none, Bool.true_and]
  split
  . next h =>
    rw [Bool.and_eq_true] at h
    exact ⟨fun hmismatch => ⟨h.1, h.2, hmismatch⟩, fun hmismatch => hmismatch.2.2⟩
  . next h =>
    rw [Bool.and_eq_true] at h
    refine ⟨fun hmismatch => absurd hmismatch ?_, fun hmismatch => absurd ⟨hmismatch.1, hmismatch.2.1⟩ h⟩
    refine Lenient.bind .here ?_ tokens index
    intro first
    apply Lenient.bind .attempt
    intro result
    cases result with
    | some found => exact .pure _
    | none => exact .bind (.skipConstruct _ _) fun _ => .pure _

/--
Whether the reader of the members of a text comes to attributes of the whole file that do not fit.
-/
def StopsAtTarget (tokens : Array Token) : Prop :=
  let g := Grammar.ofDepth tokens.size
  ∃ index, Reaches tokens (isBefore "\x7d") (memberGroup g none) 0 index ∧
    (tokenAt tokens index).isPunct ["["] = true ∧
    (tokenAt tokens (index + 2)).isPunct [":"] = true ∧
    attributeLists g tokens index = .error .mismatch

end ThreadLint.Parser
