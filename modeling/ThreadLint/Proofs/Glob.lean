import ThreadLint.Glob

/-!
This module contains which texts a pattern stands for, and that a pattern for a directory stands for
whatever is below the directory once a slash and any text are added to it.
-/

namespace ThreadLint.Glob

/-! ### Texts that a pattern stands for -/

/--
The texts that a pattern stands for.
-/
inductive Matches : Glob → List Char → Prop
  | nil : Matches [] []
  | one {part : GlobPart} {parts : Glob} {c : Char} {cs : List Char} (hpart : part ≠ .anyText)
      (hhas : part.has c = true) (h : Matches parts cs) : Matches (part :: parts) (c :: cs)
  | anyText {parts : Glob} (front : List Char) {cs : List Char} (h : Matches parts cs) :
      Matches (.anyText :: parts) (front ++ cs)

theorem Matches.append {parts others : Glob} {cs ds : List Char} (h : Matches parts cs)
    (hothers : Matches others ds) : Matches (parts ++ others) (cs ++ ds) := by
  induction h with
  | nil => exact hothers
  | one hpart hhas _ ih => exact .one hpart hhas ih
  | anyText front _ ih =>
    rw [List.append_assoc]
    exact .anyText front ih

theorem matches_nil_iff {cs : List Char} : Matches [] cs ↔ cs = [] := by
  constructor
  . intro h
    cases h
    rfl
  . rintro rfl
    exact .nil

theorem matches_anyText_iff {parts : Glob} {cs : List Char} :
    Matches (.anyText :: parts) cs ↔ ∃ rest, rest <:+ cs ∧ Matches parts rest := by
  constructor
  . intro h
    cases h with
    | one hpart => exact absurd rfl hpart
    | anyText front h => exact ⟨_, List.suffix_append front _, h⟩
  . rintro ⟨rest, ⟨front, rfl⟩, h⟩
    exact .anyText front h

theorem matches_cons_iff {part : GlobPart} {parts : Glob} {cs : List Char}
    (hpart : part ≠ .anyText) :
    Matches (part :: parts) cs ↔ ∃ c rest, cs = c :: rest ∧ part.has c = true ∧ Matches parts rest := by
  constructor
  . intro h
    cases h with
    | one _ hhas h => exact ⟨_, _, rfl, hhas, h⟩
    | anyText => exact absurd rfl hpart
  . rintro ⟨c, rest, rfl, hhas, h⟩
    exact .one hpart hhas h

/-! ### Ends that are left behind a pattern -/

theorem mem_endsOf_iff {cs rest : List Char} : rest ∈ endsOf cs ↔ rest <:+ cs := by
  induction cs with
  | nil => rw [endsOf, List.mem_singleton, List.suffix_nil]
  | cons c cs ih => rw [endsOf, List.mem_cons, ih, List.suffix_cons_iff]

/--
Whether each of some ends of a text has those behind it for ends of its own.
-/
def Descends (ends : List (List Char)) : Prop :=
  ends.Pairwise fun rest other => other <:+ rest

theorem descends_endsOf (cs : List Char) : Descends (endsOf cs) := by
  induction cs with
  | nil => exact List.pairwise_singleton _ _
  | cons c cs ih =>
    refine List.pairwise_cons.2 ⟨?_, ih⟩
    intro rest hrest
    exact (mem_endsOf_iff.1 hrest).trans (List.suffix_cons c cs)

theorem leftBehind_of_ne {part : GlobPart} (hpart : part ≠ .anyText) (ends : List (List Char)) :
    leftBehind ends part = ends.filterMap fun
      | c :: rest => if part.has c then some rest else none
      | [] => none := by
  cases part with
  | anyText => exact absurd rfl hpart
  | _ => rfl

theorem mem_leftBehind_of_ne {part : GlobPart} (hpart : part ≠ .anyText) {ends : List (List Char)}
    {rest : List Char} :
    rest ∈ leftBehind ends part ↔ ∃ c, c :: rest ∈ ends ∧ part.has c = true := by
  rw [leftBehind_of_ne hpart, List.mem_filterMap]
  constructor
  . rintro ⟨cs, hcs, h⟩
    cases cs with
    | nil => cases h
    | cons c cs =>
      obtain ⟨hhas, heq⟩ := Option.ite_none_right_eq_some.1 h
      cases heq
      exact ⟨c, hcs, hhas⟩
  . rintro ⟨c, hcs, hhas⟩
    exact ⟨_, hcs, if_pos hhas⟩

theorem Descends.leftBehind {ends : List (List Char)} (h : Descends ends) (part : GlobPart) :
    Descends (leftBehind ends part) := by
  by_cases hpart : part = .anyText
  . subst hpart
    cases ends with
    | nil => exact .nil
    | cons cs ends => exact descends_endsOf cs
  . rw [leftBehind_of_ne hpart, Descends, List.pairwise_filterMap]
    refine h.imp ?_
    intro cs ds hends rest hrest other hother
    cases cs with
    | nil => cases hrest
    | cons c cs =>
      cases ds with
      | nil => cases hother
      | cons d ds =>
        obtain ⟨_, heq⟩ := Option.ite_none_right_eq_some.1 hrest
        cases heq
        obtain ⟨_, heq⟩ := Option.ite_none_right_eq_some.1 hother
        cases heq
        cases List.suffix_cons_iff.1 hends with
        | inl heq =>
          cases heq
          exact List.suffix_refl _
        | inr hends => exact (List.suffix_cons d _).trans hends

/-- A step through a pattern leaves what the rest of the pattern must stand for. -/
theorem exists_matches_leftBehind {ends : List (List Char)} (h : Descends ends) {part : GlobPart}
    {parts : Glob} :
    (∃ cs ∈ leftBehind ends part, Matches parts cs) ↔ ∃ cs ∈ ends, Matches (part :: parts) cs := by
  by_cases hpart : part = .anyText
  . subst hpart
    simp only [matches_anyText_iff]
    cases ends with
    | nil => simp [Glob.leftBehind]
    | cons longest ends =>
      have hall : ∀ cs ∈ longest :: ends, cs <:+ longest :=
        List.forall_mem_cons.2 ⟨List.suffix_refl _, (List.pairwise_cons.1 h).1⟩
      constructor
      . rintro ⟨rest, hrest, hmatches⟩
        exact ⟨longest, List.mem_cons_self, rest, mem_endsOf_iff.1 hrest, hmatches⟩
      . rintro ⟨cs, hcs, rest, hrest, hmatches⟩
        exact ⟨rest, mem_endsOf_iff.2 (hrest.trans (hall cs hcs)), hmatches⟩
  . simp only [matches_cons_iff hpart, mem_leftBehind_of_ne hpart]
    constructor
    . rintro ⟨rest, ⟨c, hmem, hhas⟩, hmatches⟩
      exact ⟨_, hmem, c, rest, rfl, hhas, hmatches⟩
    . rintro ⟨_, hmem, c, rest, rfl, hhas, hmatches⟩
      exact ⟨rest, ⟨c, hmem, hhas⟩, hmatches⟩

/-- A pattern is looked for in one pass and finds the texts that it stands for. -/
theorem fits_iff {parts : Glob} {cs : List Char} : fits parts cs = true ↔ Matches parts cs := by
  have hfold {ends : List (List Char)} (h : Descends ends) :
      ((parts.foldl leftBehind ends).any List.isEmpty = true ↔ ∃ cs ∈ ends, Matches parts cs) := by
    induction parts generalizing ends with
    | nil => simp [matches_nil_iff]
    | cons part parts ih => rw [List.foldl_cons, ih (h.leftBehind part), exists_matches_leftBehind h]
  rw [fits, hfold (List.pairwise_singleton _ _)]
  simp

/-! ### Patterns with something behind them -/

/--
The number of characters in front of a class that cannot close it.
-/
def classFront : List Char → Nat
  | '!' :: ']' :: _ => 2
  | '!' :: _ | ']' :: _ => 1
  | _ => 0

/--
The number of characters in front of the closing bracket that is not among the first of them.
-/
def sizeFrom? (front : Nat) (cs : List Char) : Option Nat :=
  let size := front + ((cs.drop front).takeWhile (· != ']')).length
  if size < cs.length then some size else none

theorem classSize?_eq (cs : List Char) :
    classSize? cs = sizeFrom? (classFront cs) cs :=
  rfl

theorem classFront_le (cs : List Char) : classFront cs ≤ cs.length := by
  unfold classFront
  split <;> simp

theorem takeWhile_ne_bracket {cs : List Char} (h : ']' ∉ cs) : cs.takeWhile (· != ']') = cs := by
  rw [← List.append_nil cs, List.takeWhile_append_of_pos, List.takeWhile_nil]
  intro c hc
  rw [bne_iff_ne]
  rintro rfl
  exact h hc

theorem sizeFrom?_eq_none {cs : List Char} (h : ']' ∉ cs) {front : Nat} (hfront : front ≤ cs.length) :
    sizeFrom? front cs = none := by
  unfold sizeFrom?
  rw [takeWhile_ne_bracket fun hmem => h (List.mem_of_mem_drop hmem), List.length_drop]
  exact if_neg (by omega)

theorem sizeFrom?_append {cs ending : List Char} (h : ']' ∉ ending) {front : Nat}
    (hfront : front ≤ cs.length) : sizeFrom? front (cs ++ ending) = sizeFrom? front cs := by
  have hlength := (List.takeWhile_prefix (· != ']') (l := cs.drop front)).length_le
  unfold sizeFrom?
  rw [List.drop_append_of_le_length hfront, List.takeWhile_append, takeWhile_ne_bracket h]
  split
  . next hall =>
    rw [if_neg, if_neg]
    . rw [hall, List.length_drop]
      omega
    . rw [List.length_append, List.length_drop, List.length_append]
      omega
  . next hsome =>
    rw [List.length_drop] at hlength hsome
    rw [if_pos, if_pos]
    . omega
    . rw [List.length_append]
      omega

theorem classFront_cons (c : Char) (cs : List Char) :
    classFront (c :: cs) =
      if c = '!' then if cs.head? = some ']' then 2 else 1 else if c = ']' then 1 else 0 := by
  unfold classFront
  cases cs <;> grind

theorem classFront_append {c : Char} {cs ending : List Char} (h : ']' ∉ ending) :
    classFront (c :: cs ++ ending) = classFront (c :: cs) := by
  have hhead : (cs ++ ending).head? = some ']' ↔ cs.head? = some ']' := by
    cases cs with
    | cons d cs => rfl
    | nil =>
      refine ⟨fun hhead => absurd (List.mem_of_head? hhead) h, fun hhead => ?_⟩
      cases hhead
  rw [List.cons_append, classFront_cons, classFront_cons]
  simp only [hhead]

/-- What is behind a pattern closes no bracket in it as long as it has no closing bracket. -/
theorem classSize?_append {cs ending : List Char} (h : ']' ∉ ending) :
    classSize? (cs ++ ending) = classSize? cs := by
  rw [classSize?_eq, classSize?_eq]
  cases cs with
  | nil => rw [List.nil_append, sizeFrom?_eq_none h (classFront_le ending)]; rfl
  | cons c cs => rw [classFront_append h, sizeFrom?_append h (classFront_le _)]

theorem lt_of_classSize? {cs : List Char} {size : Nat} (h : classSize? cs = some size) :
    size < cs.length := by
  rw [classSize?_eq, sizeFrom?, Option.ite_none_right_eq_some] at h
  obtain ⟨hlt, heq⟩ := h
  cases heq
  exact hlt

/-- The parts of a pattern do not depend on what is behind it. -/
theorem ofChars_append {ending : List Char} (hbracket : ']' ∉ ending) {taken : Nat}
    {cs : List Char} (htaken : taken ≤ cs.length) :
    ofChars taken (cs ++ ending) = ofChars taken cs ++ ofChars 0 ending := by
  induction cs generalizing taken with
  | nil =>
    obtain rfl : taken = 0 := by simpa using htaken
    rfl
  | cons c cs ih =>
    cases taken with
    | succ taken => exact ih (Nat.le_of_succ_le_succ htaken)
    | zero =>
      have htail := ih (Nat.zero_le _)
      simp only [List.cons_append, ofChars]
      split
      . rw [htail, List.cons_append]
      . rw [htail, List.cons_append]
      . rw [classSize?_append hbracket]
        split
        . next size hsize =>
          have hlt := lt_of_classSize? hsize
          rw [ih hlt, List.take_append_of_le_length (Nat.le_of_lt hlt), List.cons_append]
        . rw [htail, List.cons_append]
      . rw [htail, List.cons_append]

/-- What a pattern with a slash and any text behind it stands for goes on below what the pattern
stands for. -/
theorem isMatch_below {pattern text : String} (h : isMatch pattern text = true) (rest : String) :
    isMatch (pattern ++ "/*") (text ++ "/" ++ rest) = true := by
  rw [isMatch, fits_iff] at h ⊢
  have hbelow : ofChars 0 "/*".toList = [.char '/', .anyText] := rfl
  have hrest : Matches [.char '/', .anyText] ("/" ++ rest).toList := by
    rw [String.toList_append, ← List.append_nil rest.toList]
    exact .one (by decide) rfl (.anyText rest.toList .nil)
  rw [ofString, String.toList_append, ofChars_append (by decide) (Nat.zero_le _), hbelow,
    String.append_assoc, String.toList_append]
  exact h.append hrest

end ThreadLint.Glob
