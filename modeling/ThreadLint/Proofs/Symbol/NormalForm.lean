import Mathlib.Algebra.Group.Nat.Even
import ThreadLint.Proofs.Symbol.Normal

/-!
This module contains what the normal form of a name looks like. Angle brackets are dropped from the
inside out until nothing is left to drop, so a text whose brackets match is left with what stands
outside of them. If the colons of a name come in pairs, its normal form has none, and a name in normal
form is its own normal form.
-/

namespace ThreadLint.Symbol

/-! ### Colons -/

/--
Whether every run of colons in a text has an even length.
-/
def PairsColons (cs : List Char) : Prop :=
  ∀ front count back, cs = front ++ (List.replicate count ':' ++ back) →
    front.getLast? ≠ some ':' → back.head? ≠ some ':' → Even count

/--
Whether a text is made of pairs of colons and of other characters.
-/
def isPaired : List Char → Bool
  | ':' :: ':' :: rest => isPaired rest
  | c :: rest => c != ':' && isPaired rest
  | [] => true

variable {cs front rest : List Char}

theorem pairsColons_of_not_mem (h : ':' ∉ cs) : PairsColons cs := by
  rintro front count back rfl _ _
  cases count with
  | zero => exact .zero
  | succ count => simp [List.replicate_succ] at h

theorem pairsColons_cons {c : Char} (h : c ≠ ':') :
    PairsColons (c :: rest) ↔ PairsColons rest := by
  constructor
  . rintro hpairs front count back rfl hfront hback
    apply hpairs (c :: front) count back rfl _ hback
    cases front with
    | nil => simpa using h
    | cons d front => simpa [List.getLast?_cons_cons] using hfront
  . intro hpairs front count back heq hfront hback
    cases front with
    | nil =>
      cases count with
      | zero => exact .zero
      | succ count =>
        rw [List.nil_append, List.replicate_succ, List.cons_append, List.cons.injEq] at heq
        exact absurd heq.1 h
    | cons d front =>
      rw [List.cons_append, List.cons.injEq] at heq
      apply hpairs front count back heq.2 _ hback
      intro hlast
      cases front with
      | nil => cases hlast
      | cons e front => exact hfront (by rwa [List.getLast?_cons_cons])

theorem pairsColons_pair : PairsColons (':' :: ':' :: rest) ↔ PairsColons rest := by
  constructor
  . rintro hpairs front count back rfl hfront hback
    cases front with
    | nil =>
      have heven : Even (count + 2) := hpairs [] (count + 2) back rfl (by simp) hback
      exact (Nat.even_add.1 heven).2 (by decide)
    | cons d front =>
      apply hpairs (':' :: ':' :: d :: front) count back rfl _ hback
      simpa [List.getLast?_cons_cons] using hfront
  . intro hpairs front count back heq hfront hback
    match front with
    | [] =>
      match count with
      | 0 => exact .zero
      | 1 =>
        rw [List.nil_append, List.replicate_one, List.singleton_append, List.cons.injEq] at heq
        simp [← heq.2] at hback
      | count + 2 =>
        simp only [List.replicate_succ, List.cons_append, List.nil_append, List.cons.injEq,
          true_and] at heq
        exact (hpairs [] count back heq (by simp) hback).add (by decide)
    | [c] =>
      rw [List.singleton_append, List.cons.injEq] at heq
      simp [← heq.1] at hfront
    | c :: d :: front =>
      simp only [List.cons_append, List.cons.injEq] at heq
      apply hpairs front count back heq.2.2 _ hback
      intro hlast
      cases front with
      | nil => cases hlast
      | cons e front => exact hfront (by rwa [List.getLast?_cons_cons, List.getLast?_cons_cons])

theorem not_pairsColons (h : rest.head? ≠ some ':') : ¬PairsColons (':' :: rest) := by
  intro hpairs
  have : Even 1 := hpairs [] 1 rest rfl (by simp) h
  contradiction

theorem isPaired_iff : isPaired cs = true ↔ PairsColons cs := by
  fun_induction isPaired cs with
  | case1 rest ih => rw [pairsColons_pair, ih]
  | case2 c rest hpair ih =>
    by_cases hc : c = ':'
    . have hrest : rest.head? ≠ some ':' := by
        intro hhead
        obtain ⟨rest, rfl⟩ := List.head?_eq_some_iff.1 hhead
        exact hpair rest hc rfl
      simp [hc, not_pairsColons hrest]
    . rw [pairsColons_cons hc, ← ih]
      simp [hc]
  | case3 => simp [pairsColons_of_not_mem]

instance (cs : List Char) : Decidable (PairsColons cs) :=
  decidable_of_iff _ isPaired_iff

theorem PairsColons.dropGlobal (h : PairsColons cs) : PairsColons (dropGlobal cs) := by
  unfold Symbol.dropGlobal
  split
  . next hglobal =>
    obtain ⟨rest, rfl⟩ := List.isPrefixOf_iff_prefix.1 hglobal
    rw [List.drop_left]
    have hglobal : "global::".toList = ['g', 'l', 'o', 'b', 'a', 'l', ':', ':'] := by decide
    rw [hglobal] at h
    simpa [pairsColons_cons, pairsColons_pair] using h
  . exact h

/-- Pairs of colons are replaced, and nothing else is a colon. -/
theorem PairsColons.not_mem_dotted (h : PairsColons cs) : ':' ∉ dotted cs := by
  fun_induction dotted cs with
  | case1 rest ih => simpa using ih (pairsColons_pair.1 h)
  | case2 c rest hpair ih =>
    have hc : c ≠ ':' := by
      rintro rfl
      apply not_pairsColons _ h
      intro hhead
      obtain ⟨rest, rfl⟩ := List.head?_eq_some_iff.1 hhead
      exact hpair rest rfl rfl
    rw [List.mem_cons, not_or]
    exact ⟨hc.symm, ih ((pairsColons_cons hc).1 h)⟩
  | case3 => simp

/-! ### Rounds of dropping -/

/--
Whether a text has an innermost pair of angle brackets.
-/
def HasInnermost (cs : List Char) : Prop :=
  ∃ front inside back, cs = front ++ '<' :: (inside ++ '>' :: back) ∧
    ∀ c ∈ inside, isAngle c = false

/-- A text begins with an innermost pair or with a character that is kept. -/
theorem dropInnermost_induction {motive : List Char → Prop} (nil : motive [])
    (pair : ∀ inside rest, (∀ c ∈ inside, isAngle c = false) → motive rest →
      motive ('<' :: (inside ++ '>' :: rest)))
    (keep : ∀ c rest, dropInnermost (c :: rest) = c :: dropInnermost rest → motive rest →
      motive (c :: rest)) (cs : List Char) :
    motive cs := by
  fun_induction dropInnermost cs with
  | case1 => exact nil
  | case2 c rest hc inside hclose ih =>
    have hplain : ∀ c ∈ inside, isAngle c = false := by
      intro c hmem
      simpa using List.all_eq_true.1 List.all_takeWhile c hmem
    obtain ⟨hlt, hget⟩ := List.getElem?_eq_some_iff.1 (beq_iff_eq.1 hclose)
    have hrest : rest = inside ++ '>' :: rest.drop (inside.length + 1) := by
      rw [← hget, ← List.drop_eq_getElem_cons]
      exact (List.prefix_iff_eq_append.1 (List.takeWhile_prefix _)).symm
    rw [beq_iff_eq.1 hc, hrest]
    exact pair inside _ hplain ih
  | case3 c rest hc inside hopen ih =>
    refine keep c rest ?_ ih
    rw [dropInnermost, if_pos hc]
    exact if_neg hopen
  | case4 c rest hc ih => exact keep c rest (dropInnermost_cons (by simpa using hc) rest) ih

theorem dropInnermost_sublist (cs : List Char) : (dropInnermost cs).Sublist cs := by
  induction cs using dropInnermost_induction with
  | nil => rw [dropInnermost]
  | pair inside rest hinside ih =>
    rw [dropInnermost_pair hinside]
    exact ih.trans (((List.sublist_cons_self _ _).trans (List.sublist_append_right _ _)).cons _)
  | keep c rest heq ih =>
    rw [heq]
    exact ih.cons_cons c

theorem HasInnermost.of_isFront (h : HasInnermost front) (hfront : front <+: cs) :
    HasInnermost cs := by
  obtain ⟨before, inside, behind, rfl, hinside⟩ := h
  obtain ⟨back, rfl⟩ := hfront
  exact ⟨before, inside, behind ++ back, by simp, hinside⟩

theorem hasInnermost_cons {c : Char} : HasInnermost (c :: rest) ↔ HasInnermost rest ∨
    c = '<' ∧ ∃ inside back, rest = inside ++ '>' :: back ∧ ∀ c ∈ inside, isAngle c = false := by
  constructor
  . rintro ⟨front, inside, back, heq, hinside⟩
    cases front with
    | nil =>
      rw [List.nil_append, List.cons.injEq] at heq
      exact .inr ⟨heq.1, inside, back, heq.2, hinside⟩
    | cons d front =>
      rw [List.cons_append, List.cons.injEq] at heq
      exact .inl ⟨front, inside, back, heq.2, hinside⟩
  . rintro (⟨front, inside, back, rfl, hinside⟩ | ⟨rfl, inside, back, rfl, hinside⟩)
    . exact ⟨c :: front, inside, back, rfl, hinside⟩
    . exact ⟨[], inside, back, rfl, hinside⟩

/-- Each round of dropping takes an opening bracket away. -/
theorem HasInnermost.count_lt (h : HasInnermost cs) :
    (dropInnermost cs).count '<' < cs.count '<' := by
  have hpair {inside rest : List Char} (hinside : ∀ c ∈ inside, isAngle c = false) :
      (dropInnermost ('<' :: (inside ++ '>' :: rest))).count '<' <
        ('<' :: (inside ++ '>' :: rest)).count '<' := by
    have hrest := (dropInnermost_sublist rest).count_le '<'
    rw [dropInnermost_pair hinside, List.count_cons_self, List.count_append, List.count_cons]
    omega
  induction cs using dropInnermost_induction with
  | nil =>
    obtain ⟨front, inside, back, heq, -⟩ := h
    simp at heq
  | pair inside rest hinside _ => exact hpair hinside
  | keep c rest heq ih =>
    obtain h | ⟨rfl, inside, back, rfl, hinside⟩ := hasInnermost_cons.1 h
    . rw [heq, List.count_cons, List.count_cons]
      have := ih h
      omega
    . exact hpair hinside

theorem dropInnermost_of_not (h : ¬HasInnermost cs) : dropInnermost cs = cs := by
  induction cs using dropInnermost_induction with
  | nil => rw [dropInnermost]
  | pair inside rest hinside _ => exact absurd ⟨[], inside, rest, rfl, hinside⟩ h
  | keep c rest heq ih => rw [heq, ih fun hrest => h (hasInnermost_cons.2 (.inl hrest))]

theorem dropInnermost_eq_iff : dropInnermost cs = cs ↔ ¬HasInnermost cs := by
  refine ⟨fun heq h => ?_, dropInnermost_of_not⟩
  have hlt := h.count_lt
  rw [heq] at hlt
  exact Nat.lt_irrefl _ hlt

/--
That rounds of dropping lead from a text to one that a further round leaves as it is.
-/
inductive Rounds : Nat → List Char → List Char → Prop where
  | settled {cs : List Char} (h : dropInnermost cs = cs) : Rounds 0 cs cs
  | again {rounds : Nat} {cs rest : List Char} (h : dropInnermost cs ≠ cs)
    (next : Rounds rounds (dropInnermost cs) rest) : Rounds (rounds + 1) cs rest

/-- The dropping comes to an end, after no more rounds than there are opening brackets. -/
theorem exists_rounds (cs : List Char) :
    ∃ rounds ≤ cs.count '<', Rounds rounds cs (dropAngles cs) := by
  fun_induction dropAngles cs with
  | case1 cs hlt ih =>
    have hne : dropInnermost cs ≠ cs := by
      intro heq
      rw [heq] at hlt
      exact Nat.lt_irrefl _ hlt
    obtain ⟨rounds, hle, hrounds⟩ := ih
    have hcount := (not_not.1 (mt dropInnermost_eq_iff.2 hne)).count_lt
    exact ⟨rounds + 1, by omega, .again hne hrounds⟩
  | case2 cs hle =>
    exact ⟨0, Nat.zero_le _,
      .settled ((dropInnermost_sublist cs).eq_of_length_le (Nat.not_lt.1 hle))⟩

theorem Rounds.not_hasInnermost {rounds : Nat} (h : Rounds rounds cs rest) :
    ¬HasInnermost rest := by
  induction h with
  | settled h => exact dropInnermost_eq_iff.1 h
  | again _ _ ih => exact ih

theorem Rounds.sublist {rounds : Nat} (h : Rounds rounds cs rest) : rest.Sublist cs := by
  induction h with
  | settled => exact .refl _
  | again _ _ ih => exact ih.trans (dropInnermost_sublist _)

theorem dropAngles_of_not (h : ¬HasInnermost cs) : dropAngles cs = cs := by
  rw [dropAngles, dropInnermost_of_not h, if_neg (Nat.lt_irrefl _)]

/-! ### Names in normal form -/

/--
Whether a name has nothing in it that is brought into another form.
-/
structure IsNormal (name : String) : Prop where
  notBlank : ∀ c ∈ name.toList, Text.isBlank c = false
  noColon : ':' ∉ name.toList
  noPair : ¬HasInnermost name.toList
  noMark : name.toList.getLast? ≠ some '?'

/--
The characters of a name as they are before angle brackets are dropped.
-/
def prepared (name : String) : List Char :=
  dotted (dropGlobal (Text.dropBlanks name).toList)

theorem toList_normalize_prepared (name : String) :
    (normalize name).toList = dropMarks (dropAngles (prepared name)) := by
  rw [toList_normalize, prepared, Text.dropBlanks, String.toList_ofList]

theorem mem_dropBlanks {name : String} {c : Char} (h : c ∈ (Text.dropBlanks name).toList) :
    Text.isBlank c = false := by
  rw [Text.dropBlanks, String.toList_ofList, List.mem_filter] at h
  simpa using h.2

theorem mem_dotted {c : Char} (h : c ∈ dotted cs) : c = '.' ∨ c ∈ cs := by
  fun_induction dotted cs with
  | case1 rest ih =>
    rw [List.mem_cons] at h
    obtain rfl | h := h
    . exact .inl rfl
    . exact (ih h).imp_right fun h => .tail _ (.tail _ h)
  | case2 c rest hpair ih =>
    rw [List.mem_cons] at h
    obtain rfl | h := h
    . exact .inr (.head _)
    . exact (ih h).imp_right (.tail _)
  | case3 => exact .inr h

theorem dropGlobal_sublist (cs : List Char) : (dropGlobal cs).Sublist cs := by
  unfold dropGlobal
  split
  . exact List.drop_sublist _ _
  . exact .refl _

theorem count_dotted (cs : List Char) : (dotted cs).count '<' = cs.count '<' := by
  fun_induction dotted cs with
  | case1 rest ih => simpa [List.count_cons] using ih
  | case2 c rest _ ih => rw [List.count_cons, List.count_cons, ih]
  | case3 => rfl

theorem count_prepared_le (name : String) :
    (prepared name).count '<' ≤ name.toList.count '<' := by
  rw [prepared, count_dotted, Text.dropBlanks, String.toList_ofList]
  exact ((dropGlobal_sublist _).trans List.filter_sublist).count_le _

theorem mem_prepared {name : String} {c : Char} (h : c ∈ prepared name) :
    Text.isBlank c = false := by
  obtain rfl | h := mem_dotted h
  . decide
  . exact mem_dropBlanks ((dropGlobal_sublist _).mem h)

theorem dropMarks_isFront (cs : List Char) : dropMarks cs <+: cs := by
  rw [dropMarks, ← List.reverse_suffix, List.reverse_reverse]
  exact List.dropWhile_suffix _

theorem getLast?_dropMarks (cs : List Char) : (dropMarks cs).getLast? ≠ some '?' := by
  rw [dropMarks, List.getLast?_reverse]
  intro hlast
  have hmark := List.head?_dropWhile_not (· == '?') cs.reverse
  rw [hlast] at hmark
  cases hmark

theorem dropMarks_of_ne (h : cs.getLast? ≠ some '?') : dropMarks cs = cs := by
  rw [dropMarks]
  cases hreverse : cs.reverse with
  | nil => rw [List.reverse_eq_nil_iff.1 hreverse]; rfl
  | cons c rest =>
    rw [List.dropWhile_cons_of_neg, ← hreverse, List.reverse_reverse]
    intro hmark
    rw [← List.head?_reverse, hreverse] at h
    exact h (congrArg some (beq_iff_eq.1 hmark))

theorem dotted_of_not_mem (h : ':' ∉ cs) : dotted cs = cs := by
  induction cs with
  | nil => rw [dotted]
  | cons c rest ih =>
    rw [List.mem_cons, not_or] at h
    rw [dotted_cons (Ne.symm h.1), ih h.2]

theorem dropGlobal_of_not_mem (h : ':' ∉ cs) : dropGlobal cs = cs := by
  unfold dropGlobal
  rw [if_neg]
  intro hglobal
  exact h ((List.isPrefixOf_iff_prefix.1 hglobal).subset (by decide))

theorem IsNormal.normalize_eq {name : String} (h : IsNormal name) : normalize name = name := by
  have hblanks : name.toList.filter (fun c => !Text.isBlank c) = name.toList := by
    rw [List.filter_eq_self]
    intro c hc
    rw [h.notBlank c hc, Bool.not_false]
  apply String.toList_injective
  rw [toList_normalize, hblanks, dropGlobal_of_not_mem h.noColon, dotted_of_not_mem h.noColon,
    dropAngles_of_not h.noPair, dropMarks_of_ne h.noMark]

theorem isNormal_normalize {name : String} (h : PairsColons (Text.dropBlanks name).toList) :
    IsNormal (normalize name) := by
  obtain ⟨rounds, -, hrounds⟩ := exists_rounds (prepared name)
  have hfront := dropMarks_isFront (dropAngles (prepared name))
  rw [← toList_normalize_prepared] at hfront
  have hmem {c : Char} (hc : c ∈ (normalize name).toList) : c ∈ prepared name :=
    hrounds.sublist.mem (hfront.subset hc)
  refine ⟨fun c hc => mem_prepared (hmem hc), ?_, ?_, ?_⟩
  . exact fun hc => h.dropGlobal.not_mem_dotted (hmem hc)
  . exact fun hpair => hrounds.not_hasInnermost (hpair.of_isFront hfront)
  . rw [toList_normalize_prepared]
    exact getLast?_dropMarks _

/-! ### Balanced brackets -/

/--
Whether the angle brackets of a text are balanced when it stands inside of a number of open ones.
-/
def isBalanced (depth : Nat) : List Char → Bool
  | [] => depth == 0
  | c :: rest =>
    if c == '<' then isBalanced (depth + 1) rest
    else if c == '>' then depth != 0 && isBalanced (depth - 1) rest
    else isBalanced depth rest

/--
The characters of a text that are outside of all angle brackets when it stands inside of a number of
open ones.
-/
def outside (depth : Nat) : List Char → List Char
  | [] => []
  | c :: rest =>
    if c == '<' then outside (depth + 1) rest
    else if c == '>' then outside (depth - 1) rest
    else if depth == 0 then c :: outside depth rest
    else outside depth rest

variable {depth : Nat}

theorem isAngle_eq_false_iff {c : Char} : isAngle c = false ↔ c ≠ '<' ∧ c ≠ '>' := by
  simp [isAngle]

theorem isBalanced_cons {c : Char} (h : isAngle c = false) :
    isBalanced depth (c :: rest) = isBalanced depth rest := by
  rw [isAngle_eq_false_iff] at h
  rw [isBalanced, if_neg (by simpa using h.1), if_neg (by simpa using h.2)]

theorem isBalanced_open : isBalanced depth ('<' :: rest) = isBalanced (depth + 1) rest := by
  rw [isBalanced, if_pos (beq_self_eq_true _)]

theorem isBalanced_close : isBalanced (depth + 1) ('>' :: rest) = isBalanced depth rest := by
  simp [isBalanced]

theorem isBalanced_append {inside : List Char} (h : ∀ c ∈ inside, isAngle c = false) :
    isBalanced depth (inside ++ rest) = isBalanced depth rest := by
  induction inside with
  | nil => rfl
  | cons c inside ih =>
    rw [List.forall_mem_cons] at h
    rw [List.cons_append, isBalanced_cons h.1, ih h.2]

theorem outside_cons {c : Char} (h : isAngle c = false) :
    outside 0 (c :: rest) = c :: outside 0 rest := by
  rw [isAngle_eq_false_iff] at h
  rw [outside, if_neg (by simpa using h.1), if_neg (by simpa using h.2),
    if_pos (beq_self_eq_true _)]

theorem outside_open : outside depth ('<' :: rest) = outside (depth + 1) rest := by
  rw [outside, if_pos (beq_self_eq_true _)]

theorem outside_close : outside (depth + 1) ('>' :: rest) = outside depth rest := by
  simp [outside]

/-- What an open bracket holds is not outside. -/
theorem outside_append {inside : List Char} (h : ∀ c ∈ inside, isAngle c = false) :
    outside (depth + 1) (inside ++ rest) = outside (depth + 1) rest := by
  induction inside with
  | nil => rfl
  | cons c inside ih =>
    rw [List.forall_mem_cons, isAngle_eq_false_iff] at h
    rw [List.cons_append, outside, if_neg (by simpa using h.1.1), if_neg (by simpa using h.1.2),
      if_neg (by simp), ih h.2]

theorem isAngle_of_mem_outside {c : Char} (h : c ∈ outside depth cs) : isAngle c = false := by
  fun_induction outside depth cs with
  | case1 => cases h
  | case2 depth d rest _ ih => exact ih h
  | case3 depth d rest _ _ ih => exact ih h
  | case4 depth d rest hopen hclose _ ih =>
    rw [List.mem_cons] at h
    obtain rfl | h := h
    . exact isAngle_eq_false_iff.2 ⟨by simpa using hopen, by simpa using hclose⟩
    . exact ih h
  | case5 depth d rest _ _ _ ih => exact ih h

theorem outside_eq_self (h : ∀ c ∈ cs, isAngle c = false) : outside 0 cs = cs := by
  induction cs with
  | nil => rfl
  | cons c rest ih =>
    rw [List.forall_mem_cons] at h
    rw [outside_cons h.1, ih h.2]

/-- A round of dropping takes nothing away that is outside, and keeps the brackets balanced. -/
theorem dropInnermost_keeps (cs : List Char) (depth : Nat) :
    outside depth (dropInnermost cs) = outside depth cs ∧
      isBalanced depth (dropInnermost cs) = isBalanced depth cs := by
  induction cs using dropInnermost_induction generalizing depth with
  | nil => rw [dropInnermost]; exact ⟨rfl, rfl⟩
  | pair inside rest hinside ih =>
    rw [dropInnermost_pair hinside, outside_open, outside_append hinside, outside_close,
      isBalanced_open, isBalanced_append hinside, isBalanced_close]
    exact ih depth
  | keep c rest heq ih =>
    rw [heq, outside, outside, isBalanced, isBalanced]
    simp only [(ih _).1, (ih _).2, and_self]

theorem Rounds.keeps {rounds : Nat} (h : Rounds rounds cs rest) (depth : Nat) :
    outside depth rest = outside depth cs ∧ isBalanced depth rest = isBalanced depth cs := by
  induction h with
  | settled => exact ⟨rfl, rfl⟩
  | @again rounds cs rest _ _ ih =>
    obtain ⟨houtside, hbalanced⟩ := dropInnermost_keeps cs depth
    exact ⟨ih.1.trans houtside, ih.2.trans hbalanced⟩

/-- A bracket that is open is closed by the first one behind it. -/
theorem exists_close (h : isBalanced (depth + 1) cs = true) (hopen : '<' ∉ cs) :
    ∃ inside back, cs = inside ++ '>' :: back ∧ ∀ c ∈ inside, isAngle c = false := by
  induction cs with
  | nil => simp [isBalanced] at h
  | cons c rest ih =>
    rw [List.mem_cons, not_or] at hopen
    by_cases hc : c = '>'
    . exact ⟨[], rest, by rw [hc, List.nil_append], by simp⟩
    . have hangle : isAngle c = false := isAngle_eq_false_iff.2 ⟨Ne.symm hopen.1, hc⟩
      rw [isBalanced_cons hangle] at h
      obtain ⟨inside, back, rfl, hinside⟩ := ih h hopen.2
      exact ⟨c :: inside, back, rfl, List.forall_mem_cons.2 ⟨hangle, hinside⟩⟩

/-- Balanced brackets have an innermost pair among them. -/
theorem open_not_mem (h : isBalanced depth cs = true) (hpair : ¬HasInnermost cs) : '<' ∉ cs := by
  induction cs generalizing depth with
  | nil => simp
  | cons c rest ih =>
    rw [hasInnermost_cons, not_or] at hpair
    have hrest : '<' ∉ rest := by
      rw [isBalanced] at h
      split at h
      . exact ih h hpair.1
      . split at h
        . exact ih (Bool.and_eq_true_iff.1 h).2 hpair.1
        . exact ih h hpair.1
    rw [List.mem_cons, not_or]
    refine ⟨?_, hrest⟩
    rintro rfl
    rw [isBalanced_open] at h
    exact hpair.2 ⟨rfl, exists_close h hrest⟩

theorem isAngle_of_isBalanced (h : isBalanced 0 cs = true) (hpair : ¬HasInnermost cs) :
    ∀ c ∈ cs, isAngle c = false := by
  have hopen := open_not_mem h hpair
  intro c hc
  refine isAngle_eq_false_iff.2 ⟨fun heq => hopen (heq ▸ hc), ?_⟩
  rintro rfl
  -- The first closing bracket would have none to close.
  clear hpair
  induction cs with
  | nil => cases hc
  | cons d rest ih =>
    rw [List.mem_cons, not_or] at hopen
    by_cases hd : d = '>'
    . rw [hd] at h
      simp [isBalanced] at h
    . rw [isBalanced_cons (isAngle_eq_false_iff.2 ⟨Ne.symm hopen.1, hd⟩)] at h
      exact ih h hopen.2 ((List.mem_cons.1 hc).resolve_left (Ne.symm hd))

theorem dropAngles_of_isBalanced (h : isBalanced 0 cs = true) : dropAngles cs = outside 0 cs := by
  obtain ⟨rounds, -, hrounds⟩ := exists_rounds cs
  obtain ⟨houtside, hbalanced⟩ := hrounds.keeps 0
  rw [h] at hbalanced
  rw [← houtside]
  exact (outside_eq_self (isAngle_of_isBalanced hbalanced hrounds.not_hasInnermost)).symm

theorem isBalanced_dotted (depth : Nat) (cs : List Char) :
    isBalanced depth (dotted cs) = isBalanced depth cs := by
  fun_induction dotted cs generalizing depth with
  | case1 rest ih =>
    rw [isBalanced_cons (by decide), isBalanced_cons (by decide), isBalanced_cons (by decide), ih]
  | case2 c rest _ ih =>
    rw [isBalanced, isBalanced]
    simp only [ih]
  | case3 => rfl

theorem isBalanced_dropGlobal (depth : Nat) (cs : List Char) :
    isBalanced depth (dropGlobal cs) = isBalanced depth cs := by
  unfold dropGlobal
  split
  . next hglobal =>
    obtain ⟨rest, rfl⟩ := List.isPrefixOf_iff_prefix.1 hglobal
    have hplain : ("global::".toList.all fun c => !isAngle c) = true := by decide
    rw [List.drop_left, isBalanced_append fun c hc => by simpa using List.all_eq_true.1 hplain c hc]
  . rfl

theorem isBalanced_filter (depth : Nat) (cs : List Char) :
    isBalanced depth (cs.filter fun c => !Text.isBlank c) = isBalanced depth cs := by
  induction cs generalizing depth with
  | nil => rfl
  | cons c rest ih =>
    rw [List.filter_cons]
    split
    . rw [isBalanced, isBalanced]
      simp only [ih]
    . next hblank =>
      have hangle : isAngle c = false := by
        rw [isAngle_eq_false_iff]
        constructor <;> (rintro rfl; exact hblank (by decide))
      rw [isBalanced_cons hangle, ih]

theorem isBalanced_prepared (name : String) :
    isBalanced 0 (prepared name) = isBalanced 0 name.toList := by
  rw [prepared, isBalanced_dotted, isBalanced_dropGlobal, Text.dropBlanks, String.toList_ofList,
    isBalanced_filter]

/--
Bringing a name into its normal form comes to an end after no more rounds than the name has opening
brackets. If the colons of the name come in pairs, nothing is left in the result that has another
form, and it is its own normal form. If its brackets are balanced, what is outside of all of them is
what is kept.
-/
theorem normalize_settles (name : String) :
    (∃ rounds settled, rounds ≤ name.toList.count '<' ∧ Rounds rounds (prepared name) settled ∧
      (normalize name).toList = dropMarks settled) ∧
    (PairsColons (Text.dropBlanks name).toList →
      IsNormal (normalize name) ∧ normalize (normalize name) = normalize name) ∧
    (isBalanced 0 name.toList = true →
      (normalize name).toList = dropMarks (outside 0 (prepared name)) ∧
        ∀ c ∈ (normalize name).toList, isAngle c = false) := by
  refine ⟨?_, fun hpairs => ?_, fun hbalanced => ?_⟩
  . obtain ⟨rounds, hle, hrounds⟩ := exists_rounds (prepared name)
    exact ⟨rounds, _, hle.trans (count_prepared_le name), hrounds, toList_normalize_prepared name⟩
  . have hnormal := isNormal_normalize hpairs
    exact ⟨hnormal, hnormal.normalize_eq⟩
  . rw [← isBalanced_prepared] at hbalanced
    rw [toList_normalize_prepared, dropAngles_of_isBalanced hbalanced]
    exact ⟨rfl, fun c hc => isAngle_of_mem_outside ((dropMarks_isFront _).subset hc)⟩

theorem normalize_settles_nested :
    PairsColons (Text.dropBlanks "global::A::B<C<D>, E>::F??").toList ∧
    isBalanced 0 "global::A::B<C<D>, E>::F??".toList = true ∧
    IsNormal (normalize "global::A::B<C<D>, E>::F??") ∧
    (normalize "global::A::B<C<D>, E>::F??").toList = "A.B.F".toList := by
  have hpairs : PairsColons (Text.dropBlanks "global::A::B<C<D>, E>::F??").toList := by
    decide +kernel
  have hbalanced : isBalanced 0 "global::A::B<C<D>, E>::F??".toList = true := by
    decide +kernel
  obtain ⟨-, hnormal, hkept⟩ := normalize_settles "global::A::B<C<D>, E>::F??"
  refine ⟨hpairs, hbalanced, (hnormal hpairs).1, (hkept hbalanced).1.trans ?_⟩
  decide +kernel

end ThreadLint.Symbol
