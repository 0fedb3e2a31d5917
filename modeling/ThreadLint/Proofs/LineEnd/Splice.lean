import ThreadLint.Proofs.Settled.Carry
import ThreadLint.Proofs.Token.Tiling
import ThreadLint.Text.Segment

/-!
This module contains the line ends of texts: whether each line feed of a text comes right behind a
carriage return, as it does in files whose lines end with both. It also contains what edits do to the
line ends of a text: those that keep each line feed behind a carriage return, those that do not, and
what comes of several of them together.
-/

/-! ### Line feeds behind carriage returns -/

namespace ThreadLint.Text

/--
Whether each line feed of a text comes right behind a carriage return. One may stand in front of the
text, which `behind` says.
-/
def feedsPaired (behind : Bool) : List Char → Bool
  | [] => true
  | c :: rest => (c != '\n' || behind) && feedsPaired (c == '\r') rest

/--
Whether a carriage return stands in front of what follows a text.
-/
def endsWithReturn (behind : Bool) : List Char → Bool
  | [] => behind
  | c :: rest => endsWithReturn (c == '\r') rest

theorem feedsPaired_append (behind : Bool) (front back : List Char) :
    feedsPaired behind (front ++ back) =
      (feedsPaired behind front && feedsPaired (endsWithReturn behind front) back) := by
  induction front generalizing behind with
  | nil => rfl
  | cons c rest ih =>
    rw [List.cons_append, feedsPaired, feedsPaired, endsWithReturn, ih, Bool.and_assoc]

theorem endsWithReturn_append (behind : Bool) (front back : List Char) :
    endsWithReturn behind (front ++ back) = endsWithReturn (endsWithReturn behind front) back := by
  induction front generalizing behind with
  | nil => rfl
  | cons c rest ih => rw [List.cons_append, endsWithReturn, endsWithReturn, ih]

theorem endsWithReturn_eq (behind : Bool) (text : List Char) :
    endsWithReturn behind text = (text.getLast?.map (· == '\r')).getD behind := by
  induction text generalizing behind with
  | nil => rfl
  | cons c rest ih =>
    rw [endsWithReturn, ih]
    cases rest with
    | nil => rfl
    | cons d rest =>
      rw [List.getLast?_cons_cons, List.getLast?_eq_some_getLast (List.cons_ne_nil _ _)]
      rfl

/-- Only a text that begins with a line feed needs a carriage return in front of it. -/
theorem feedsPaired_eq {text : List Char} (h : text.head? ≠ some '\n') (behind other : Bool) :
    feedsPaired behind text = feedsPaired other text := by
  cases text with
  | nil => rfl
  | cons c rest =>
    have hc : (c != '\n') = true := by simpa using h
    rw [feedsPaired, feedsPaired, hc, Bool.true_or, Bool.true_or]

theorem feedsPaired_of_false {text : List Char} (h : feedsPaired false text = true)
    (behind : Bool) : feedsPaired behind text = true := by
  cases text with
  | nil => rfl
  | cons c rest =>
    rw [feedsPaired, Bool.and_eq_true, Bool.or_false] at h
    rw [feedsPaired, h.1, h.2]
    rfl

theorem feedsPaired_of_not_mem {text : List Char} (h : '\n' ∉ text) (behind : Bool) :
    feedsPaired behind text = true := by
  induction text generalizing behind with
  | nil => rfl
  | cons c rest ih =>
    rw [List.mem_cons, not_or] at h
    have hc : (c != '\n') = true := by simpa using Ne.symm h.1
    rw [feedsPaired, hc, ih h.2]
    rfl

theorem endsWithReturn_of_ne_nil {text : List Char} (h : text ≠ []) (behind other : Bool) :
    endsWithReturn behind text = endsWithReturn other text := by
  cases text with
  | nil => exact absurd rfl h
  | cons c rest => rfl

theorem feedsPaired_append_of_false {front back : List Char} (h : feedsPaired false front = true)
    (hback : feedsPaired false back = true) : feedsPaired false (front ++ back) = true := by
  rw [feedsPaired_append, h, feedsPaired_of_false hback, Bool.and_self]

theorem feedsPaired_take {behind : Bool} {text : List Char} (h : feedsPaired behind text = true)
    (count : Nat) : feedsPaired behind (text.take count) = true := by
  rw [← List.take_append_drop count text, feedsPaired_append, Bool.and_eq_true] at h
  exact h.1

theorem endsWithReturn_of_not_mem {text : List Char} (h : '\r' ∉ text) :
    endsWithReturn false text = false := by
  rw [endsWithReturn_eq]
  cases hlast : text.getLast? with
  | none => rfl
  | some c =>
    have hc : c ≠ '\r' := by
      rintro rfl
      exact h (List.mem_of_getLast? hlast)
    simpa using hc

theorem endsWithReturn_le {behind : Bool} {text : List Char}
    (h : endsWithReturn true text = false) : endsWithReturn behind text = false := by
  cases text with
  | nil => cases h
  | cons c rest => exact h

/-! ### Texts that can be put between others -/

/--
Whether a text neither needs a carriage return in front of it nor leaves one behind it.
-/
def blends (text : List Char) : Bool :=
  feedsPaired false text && !endsWithReturn true text

theorem feedsPaired_of_blends {text : List Char} (h : blends text = true) :
    feedsPaired false text = true := by
  unfold blends at h
  rw [Bool.and_eq_true] at h
  exact h.1

theorem endsWithReturn_of_blends {text : List Char} (h : blends text = true) :
    endsWithReturn true text = false := by
  unfold blends at h
  rw [Bool.and_eq_true, Bool.not_eq_true'] at h
  exact h.2

/-- A feed that a return stands in front of is let through, a return at the end is not. -/
example : blends "a\r\nb".toList = true ∧ blends "a\r".toList = false := by
  decide +kernel

theorem blends_append {front back : List Char} (h : feedsPaired false front = true)
    (hback : blends back = true) : blends (front ++ back) = true := by
  unfold blends
  rw [feedsPaired_append_of_false h (feedsPaired_of_blends hback), endsWithReturn_append,
    endsWithReturn_le (endsWithReturn_of_blends hback)]
  rfl

/-! ### Offsets that cut no line end -/

/--
Whether no line feed stands behind an offset of a text.
-/
def NoFeedBehind (text : List Char) (offset : Nat) : Prop :=
  (text.drop offset).head? ≠ some '\n'

/--
Whether no carriage return stands in front of an offset of a text.
-/
def NoReturnBefore (text : List Char) (offset : Nat) : Prop :=
  (text.take offset).getLast? ≠ some '\r'

variable {text : List Char} {start stop offset : Nat}

theorem NoReturnBefore.endsWithReturn_take (h : NoReturnBefore text offset) :
    endsWithReturn false (text.take offset) = false := by
  rw [endsWithReturn_eq]
  unfold NoReturnBefore at h
  cases hlast : (text.take offset).getLast? with
  | none => rfl
  | some c =>
    rw [hlast] at h
    simpa using h

theorem feedsPaired_drop (hpaired : feedsPaired false text = true) :
    feedsPaired (endsWithReturn false (text.take offset)) (text.drop offset) = true := by
  rw [← List.take_append_drop offset text, feedsPaired_append, Bool.and_eq_true] at hpaired
  exact hpaired.2

theorem NoReturnBefore.noFeedBehind (h : NoReturnBefore text offset)
    (hpaired : feedsPaired false text = true) : NoFeedBehind text offset := by
  have hdrop := @feedsPaired_drop text offset hpaired
  rw [h.endsWithReturn_take] at hdrop
  intro hhead
  obtain ⟨rest, hrest⟩ := List.head?_eq_some_iff.1 hhead
  rw [hrest, feedsPaired] at hdrop
  cases hdrop

theorem NoFeedBehind.feedsPaired_drop (h : NoFeedBehind text offset)
    (hpaired : feedsPaired false text = true) : feedsPaired false (text.drop offset) = true := by
  rw [feedsPaired_eq h false _]
  exact Text.feedsPaired_drop hpaired

theorem NoFeedBehind.feedsPaired_slice (h : NoFeedBehind text start)
    (hpaired : feedsPaired false text = true) (stop : Nat) :
    feedsPaired false (slice text start stop).toList = true := by
  rw [slice, String.toList_ofList]
  exact feedsPaired_take (h.feedsPaired_drop hpaired) _

theorem NoReturnBefore.endsWithReturn_slice (h : NoReturnBefore text stop) (hlt : start < stop)
    (hlength : stop ≤ text.length) (behind : Bool) :
    endsWithReturn behind (slice text start stop).toList = false := by
  have hne : (text.drop start).take (stop - start) ≠ [] := by
    rw [← List.length_pos_iff, List.length_take, List.length_drop]
    omega
  have htake := h.endsWithReturn_take
  rw [show stop = start + (stop - start) by omega, List.take_add, endsWithReturn_append] at htake
  rw [slice, String.toList_ofList, endsWithReturn_of_ne_nil hne, htake]

theorem NoFeedBehind.blends_slice (h : NoFeedBehind text start) (hstop : NoReturnBefore text stop)
    (hlt : start < stop) (hlength : stop ≤ text.length) (hpaired : feedsPaired false text = true) :
    blends (slice text start stop).toList = true := by
  unfold blends
  rw [h.feedsPaired_slice hpaired, hstop.endsWithReturn_slice hlt hlength]
  rfl

theorem slice_eq_empty (h : stop ≤ start) : slice text start stop = "" := by
  rw [slice, Nat.sub_eq_zero_of_le h, List.take_zero, String.ofList_nil]

theorem noReturnBefore_of_slice {part : String} (h : slice text start stop = part)
    (hle : start ≤ stop) (hne : part.toList ≠ []) (hlast : part.toList.getLast? ≠ some '\r') :
    NoReturnBefore text stop := by
  rw [NoReturnBefore, getLast?_take_of_slice h hle hne]
  exact hlast

theorem NoFeedBehind.take (h : NoFeedBehind text offset) (count : Nat) :
    NoFeedBehind (text.take count) offset := by
  unfold NoFeedBehind at *
  rw [List.drop_take, List.head?_take]
  split
  . simp
  . exact h

end ThreadLint.Text

/-! ### Edits -/

namespace ThreadLint

open ThreadLint.Text

namespace Edit

/--
Whether an edit leaves each line feed of a text behind a carriage return.
-/
structure KeepsFeeds (text : List Char) (edit : Edit) : Prop where
  blends : blends edit.replacement.toList = true
  noFeedBehind : NoFeedBehind text edit.stop.toNat

/--
Whether an edit writes a line feed that has no carriage return in front of it.
-/
structure BreaksFeeds (text : List Char) (edit : Edit) : Prop where
  closed : endsWithReturn true edit.replacement.toList = false
  unpaired : feedsPaired (endsWithReturn false (text.take edit.start.toNat))
    edit.replacement.toList = false

variable {text : List Char} {edit other : Edit} {edits : List Edit}

theorem KeepsFeeds.not_breaksFeeds (h : edit.KeepsFeeds text) : ¬ edit.BreaksFeeds text := by
  intro hbreaks
  have hunpaired := hbreaks.unpaired
  rw [feedsPaired_of_false (feedsPaired_of_blends h.blends)] at hunpaired
  cases hunpaired

/-! ### In front of an edit -/

theorem KeepsFeeds.take (h : edit.KeepsFeeds text) (count : Nat) :
    edit.KeepsFeeds (text.take count) :=
  ⟨h.blends, h.noFeedBehind.take count⟩

theorem BreaksFeeds.take {count : Nat} (h : edit.BreaksFeeds text)
    (hcount : edit.start.toNat ≤ count) : edit.BreaksFeeds (text.take count) := by
  refine ⟨h.closed, ?_⟩
  rw [List.take_take, Nat.min_eq_left hcount]
  exact h.unpaired

section

variable (hinside : ∀ edit ∈ edits, edit.Inside text.length)
  (horder : edits.Pairwise fun edit other => other.IsBefore edit)

include hinside horder

theorem feedsPaired_foldl (hkeeps : ∀ edit ∈ edits, edit.KeepsFeeds text)
    (hpaired : feedsPaired false text = true) :
    feedsPaired false (edits.foldl (fun text edit => edit.apply text) text) = true := by
  induction edits generalizing text with
  | nil => exact hpaired
  | cons edit rest ih =>
    rw [foldl_cons_eq hinside horder]
    rw [List.forall_mem_cons] at hinside hkeeps
    rw [List.pairwise_cons] at horder
    apply feedsPaired_append_of_false
    . refine ih ?_ horder.2 ?_ (feedsPaired_take hpaired _)
      . exact fun other hother =>
          inside_take hinside.1 (hinside.2 other hother) (horder.1 other hother)
      . exact fun other hother => (hkeeps.2 other hother).take _
    . exact feedsPaired_append_of_false (feedsPaired_of_blends hkeeps.1.blends)
        (hkeeps.1.noFeedBehind.feedsPaired_drop hpaired)

/-- No edit leaves a carriage return at the end of a text that has none there. -/
theorem endsWithReturn_foldl
    (hclosed : ∀ edit ∈ edits, endsWithReturn true edit.replacement.toList = false)
    (htext : endsWithReturn false text = false) :
    endsWithReturn false (edits.foldl (fun text edit => edit.apply text) text) = false := by
  cases edits with
  | nil => exact htext
  | cons edit rest =>
    rw [foldl_cons_eq hinside horder, endsWithReturn_append, endsWithReturn_append]
    rw [endsWithReturn_le (hclosed edit (List.mem_cons_self ..))]
    by_cases hdrop : text.drop edit.stop.toNat = []
    . rw [hdrop]
      rfl
    . rw [← List.take_append_drop edit.stop.toNat text, endsWithReturn_append] at htext
      rw [endsWithReturn_of_ne_nil hdrop, htext]

theorem not_feedsPaired_foldl
    (hclosed : ∀ edit ∈ edits, endsWithReturn true edit.replacement.toList = false)
    (hmem : edit ∈ edits) (hbreaks : edit.BreaksFeeds text) :
    feedsPaired false (edits.foldl (fun text edit => edit.apply text) text) = false := by
  induction edits generalizing text with
  | nil => cases hmem
  | cons first rest ih =>
    have hrest : ∀ other ∈ rest, other.Inside (text.take first.start.toNat).length := by
      rw [List.forall_mem_cons] at hinside
      rw [List.pairwise_cons] at horder
      exact fun other hother =>
        inside_take hinside.1 (hinside.2 other hother) (horder.1 other hother)
    rw [foldl_cons_eq hinside horder, feedsPaired_append, feedsPaired_append]
    rw [List.pairwise_cons] at horder
    rw [List.forall_mem_cons] at hclosed
    rw [List.mem_cons] at hmem
    cases hmem with
    | inl heq =>
      subst heq
      have hunpaired := hbreaks.unpaired
      cases hfront : endsWithReturn false (text.take edit.start.toNat) with
      | false =>
        rw [hfront] at hunpaired
        rw [endsWithReturn_foldl hrest horder.2 hclosed.2 hfront, hunpaired]
        simp
      | true =>
        rw [hfront] at hunpaired
        -- what has no line feed unpaired behind a carriage return has none anywhere
        have hnever (behind : Bool) : feedsPaired behind edit.replacement.toList = false := by
          cases behind with
          | true => exact hunpaired
          | false =>
            rw [Bool.eq_false_iff]
            intro hpaired
            rw [feedsPaired_of_false hpaired] at hunpaired
            cases hunpaired
        rw [hnever]
        simp
    | inr hmem =>
      have hstart : edit.start.toNat ≤ first.start.toNat := by
        have := (horder.1 edit hmem).2
        omega
      rw [ih hrest horder.2 hclosed.2 hmem (hbreaks.take hstart), Bool.false_and]

end

/-- Edits keep the line ends of a text exactly if none of them breaks them. -/
theorem feedsPaired_splice_iff (hinside : ∀ edit ∈ edits, edit.Inside text.length)
    (hcompatible : edits.Pairwise fun edit other => edit.conflictsWith other = false)
    (hpaired : feedsPaired false text = true)
    (h : ∀ edit ∈ edits, edit.KeepsFeeds text ∨ edit.BreaksFeeds text) :
    feedsPaired false (splice text edits) = true ↔ ∀ edit ∈ edits, edit.KeepsFeeds text := by
  have hperm := inOrder_perm edits
  have horder := pairwise_inOrder hinside hcompatible
  have hinside : ∀ edit ∈ inOrder edits, edit.Inside text.length :=
    fun edit hedit => hinside edit (hperm.mem_iff.1 hedit)
  constructor
  . intro hspliced edit hmem
    apply (h edit hmem).resolve_right
    intro hbreaks
    have hclosed : ∀ edit ∈ inOrder edits, endsWithReturn true edit.replacement.toList = false := by
      intro edit hedit
      cases h edit (hperm.mem_iff.1 hedit) with
      | inl hkeeps => exact endsWithReturn_of_blends hkeeps.blends
      | inr hbreaks => exact hbreaks.closed
    have hbroken := not_feedsPaired_foldl hinside horder hclosed (hperm.mem_iff.2 hmem) hbreaks
    rw [splice, ← inOrder, hbroken] at hspliced
    cases hspliced
  . intro hkeeps
    exact feedsPaired_foldl hinside horder (fun edit hedit => hkeeps edit (hperm.mem_iff.1 hedit))
      hpaired

end Edit

end ThreadLint
