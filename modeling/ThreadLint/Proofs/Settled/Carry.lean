import Mathlib
import ThreadLint.Proofs.Rule
import ThreadLint.Finding

/-!
This module contains where the parts of a text are found after some edits: what an edit writes, and
what stands between two offsets that the edits may move.
-/

namespace ThreadLint

namespace Edit

/--
By how much an edit makes a text longer.
-/
def growth (edit : Edit) : Int :=
  edit.replacement.length - (edit.stop - edit.start)

/--
By how much those of some edits that pass a test make a text longer.
-/
def growthOf (edits : List Edit) (test : Edit → Bool) : Int :=
  ((edits.filter test).map growth).sum

/--
Where what begins at an offset is found after some edits: behind the edits that end there and begin
in front of it.
-/
def carriedStart (edits : List Edit) (offset : Nat) : Nat :=
  (offset + growthOf edits fun edit =>
    decide (edit.start < offset) && decide (edit.stop ≤ offset)).toNat

/--
Where what ends at an offset is found to end after some edits: behind all edits that begin in front
of the offset or touch it.
-/
def carriedStop (edits : List Edit) (offset : Nat) : Nat :=
  (offset + growthOf edits fun edit =>
    decide (edit.start < offset) || decide (edit.stop ≤ offset)).toNat

/--
An extent carried over to the text after some edits. What edits write at its ends belongs to it.
-/
def carried (edits : List Edit) (extent : Extent) : Extent :=
  ⟨carriedStart edits extent.start, carriedStop edits extent.stop⟩

end Edit

namespace Text

theorem before_natCast {text : List Char} {offset : Nat} (h : offset ≤ text.length) :
    before text offset = text.take offset := by
  unfold before place
  rw [if_neg (by omega), Int.toNat_natCast, Nat.min_eq_left h]

theorem behind_natCast {text : List Char} {offset : Nat} (h : offset ≤ text.length) :
    behind text offset = text.drop offset := by
  unfold behind place
  rw [if_neg (by omega), Int.toNat_natCast, Nat.min_eq_left h]

end Text

namespace Edit

/-! ### Edits in the order in which they are made -/

theorem apply_append {edit : Edit} {front back : List Char} (h : edit.Inside front.length) :
    edit.apply (front ++ back) =
      front.take edit.start.toNat ++ (edit.replacement.toList ++ front.drop edit.stop.toNat ++ back) := by
  obtain ⟨hstart, hle, hstop⟩ := h
  obtain ⟨start, hstart⟩ := Int.eq_ofNat_of_zero_le hstart
  obtain ⟨stop, hstop'⟩ := Int.eq_ofNat_of_zero_le (Int.le_trans (by omega) hle)
  rw [hstop'] at hstop
  rw [hstart, hstop'] at hle
  unfold apply
  rw [hstart, hstop', Text.before_natCast (by simp; omega), Text.behind_natCast (by simp; omega)]
  rw [List.take_append_of_le_length (by omega), List.drop_append_of_le_length (by omega)]
  simp only [Int.toNat_natCast, List.append_assoc]

/--
Whether an edit ends where another one begins or in front of it.
-/
def IsBefore (edit other : Edit) : Prop :=
  edit.stop ≤ other.start ∧ edit.start < other.start

theorem growthOf_eq_zero {edits : List Edit} {test : Edit → Bool}
    (h : ∀ edit ∈ edits, test edit = false) : growthOf edits test = 0 := by
  unfold growthOf
  rw [List.filter_eq_nil_iff.2 fun edit hedit => by simp [h edit hedit]]
  rfl

theorem growthOf_congr {edits : List Edit} {test other : Edit → Bool}
    (h : ∀ edit ∈ edits, test edit = other edit) : growthOf edits test = growthOf edits other := by
  unfold growthOf
  rw [List.filter_congr h]

theorem growthOf_cons (edit : Edit) (edits : List Edit) (test : Edit → Bool) :
    growthOf (edit :: edits) test
      = (if test edit then edit.growth else 0) + growthOf edits test := by
  unfold growthOf
  cases h : test edit
  . simp [h]
  . simp [h]

theorem growthOf_perm {edits others : List Edit} (h : edits.Perm others) (test : Edit → Bool) :
    growthOf edits test = growthOf others test :=
  ((h.filter test).map growth).sum_eq

/--
Whether an edit lies in an extent and makes it longer.
-/
structure Lengthens (extent : Extent) (edit : Edit) : Prop where
  start_le : extent.start ≤ edit.start
  start_le_stop : edit.start ≤ edit.stop
  stop_le : edit.stop ≤ extent.stop
  growth_pos : 0 < edit.growth

section

variable {edits : List Edit} {extent : Extent} (h : ∀ edit ∈ edits, edit.Lengthens extent)

include h

theorem growthOf_bounds (test : Edit → Bool) :
    0 ≤ growthOf edits test ∧ growthOf edits test ≤ growthOf edits fun _ => true := by
  induction edits with
  | nil => exact ⟨Int.le_refl _, Int.le_refl _⟩
  | cons edit rest ih =>
    rw [List.forall_mem_cons] at h
    have := ih h.2
    have := h.1.growth_pos
    rw [growthOf_cons, growthOf_cons, if_pos rfl]
    split
    . omega
    . omega

theorem growthOf_pos (hne : edits ≠ []) : 0 < growthOf edits fun _ => true := by
  cases edits with
  | nil => exact absurd rfl hne
  | cons edit rest =>
    rw [List.forall_mem_cons] at h
    have := (growthOf_bounds h.2 fun _ => true).1
    have := h.1.growth_pos
    rw [growthOf_cons, if_pos rfl]
    omega

/-- An extent is carried over with all edits inside it. -/
theorem carried_eq_of_lengthens :
    (carried edits extent).start = extent.start ∧
      ((carried edits extent).stop : Int) = extent.stop + growthOf edits fun _ => true := by
  have hgrowth := (growthOf_bounds h fun _ => true).1
  unfold carried carriedStart carriedStop
  dsimp only
  constructor
  . rw [growthOf_eq_zero, Int.add_zero, Int.toNat_natCast]
    intro edit hedit
    have := (h edit hedit).start_le
    rw [Bool.and_eq_false_iff, decide_eq_false_iff_not]
    exact .inl (by omega)
  . have hall : (growthOf edits fun edit =>
        decide (edit.start < extent.stop) || decide (edit.stop ≤ extent.stop))
          = growthOf edits fun _ => true := by
      unfold growthOf
      congr 2
      apply List.filter_congr
      intro edit hedit
      rw [decide_eq_true (h edit hedit).stop_le, Bool.or_true]
    rw [hall, Int.toNat_of_nonneg (by omega)]

end

/-- What stands behind all edits is not changed by them. -/
theorem foldl_apply_append {edits : List Edit} {front back : List Char}
    (hinside : ∀ edit ∈ edits, edit.Inside front.length)
    (horder : edits.Pairwise fun edit other => other.IsBefore edit) :
    edits.foldl (fun text edit => edit.apply text) (front ++ back)
        = edits.foldl (fun text edit => edit.apply text) front ++ back ∧
      ((edits.foldl (fun text edit => edit.apply text) front).length : Int)
        = front.length + growthOf edits fun _ => true := by
  induction edits generalizing front back with
  | nil => simp [growthOf]
  | cons edit rest ih =>
    have hedit := hinside edit (List.mem_cons_self ..)
    obtain ⟨hstart, hle, hstop⟩ := hedit
    have htake : (front.take edit.start.toNat).length = edit.start.toNat := by
      rw [List.length_take]
      omega
    have hrest : ∀ other ∈ rest, other.Inside (front.take edit.start.toNat).length := by
      intro other hother
      obtain ⟨hstart', hle', _⟩ := hinside other (List.mem_cons_of_mem _ hother)
      have := (List.pairwise_cons.1 horder).1 other hother
      refine ⟨hstart', hle', ?_⟩
      rw [htake]
      have := this.1
      omega
    have ih {back : List Char} := @ih _ back hrest (List.pairwise_cons.1 horder).2
    have happly := @apply_append edit front [] ⟨hstart, hle, hstop⟩
    rw [List.append_nil, List.append_nil] at happly
    rw [List.foldl_cons, List.foldl_cons, apply_append ⟨hstart, hle, hstop⟩, happly]
    rw [ih.1, ih.1, growthOf_cons, if_pos rfl, growth]
    constructor
    . simp only [List.append_assoc]
    . have hlength := (@ih []).2
      rw [List.length_append, Int.natCast_add, hlength, htake, List.length_append,
        List.length_drop, String.length_toList]
      omega

section

variable {text : List Char} {edit other : Edit} {edits : List Edit}

theorem length_take_start (h : edit.Inside text.length) :
    (text.take edit.start.toNat).length = edit.start.toNat := by
  have hstart := h.start_nonneg
  have hle := h.start_le_stop
  have hstop := h.stop_le
  rw [List.length_take]
  omega

theorem inside_take (h : edit.Inside text.length) (hother : other.Inside text.length)
    (hbefore : other.IsBefore edit) : other.Inside (text.take edit.start.toNat).length := by
  have hstart := h.start_nonneg
  refine ⟨hother.start_nonneg, hother.start_le_stop, ?_⟩
  rw [length_take_start h]
  have := hbefore.1
  omega

/-- The last of some edits in order is made behind what the others make of the text in front. -/
theorem foldl_cons_eq (hinside : ∀ other ∈ edit :: edits, other.Inside text.length)
    (horder : (edit :: edits).Pairwise fun edit other => other.IsBefore edit) :
    (edit :: edits).foldl (fun text edit => edit.apply text) text =
      edits.foldl (fun text edit => edit.apply text) (text.take edit.start.toNat) ++
        (edit.replacement.toList ++ text.drop edit.stop.toNat) := by
  rw [List.forall_mem_cons] at hinside
  rw [List.pairwise_cons] at horder
  have happly := @apply_append edit text [] hinside.1
  rw [List.append_nil, List.append_nil] at happly
  rw [List.foldl_cons, happly]
  exact (foldl_apply_append
    (fun other hother => inside_take hinside.1 (hinside.2 other hother) (horder.1 other hother))
    horder.2).1

/-- What an edit writes stands behind what the edits in front of it make of the text there. -/
theorem exists_foldl_eq (hinside : ∀ edit ∈ edits, edit.Inside text.length)
    (horder : edits.Pairwise fun edit other => other.IsBefore edit) (hmem : edit ∈ edits) :
    ∃ front back, edits.foldl (fun text edit => edit.apply text) text
        = front ++ (edit.replacement.toList ++ back) ∧
      (front.length : Int) = edit.start + growthOf edits fun other =>
        decide (other.start < edit.start) && decide (other.stop ≤ edit.start) := by
  induction edits generalizing text with
  | nil => cases hmem
  | cons first rest ih =>
    have hfirst := hinside first (List.mem_cons_self ..)
    have hsplit := foldl_cons_eq hinside horder
    rw [List.pairwise_cons] at horder
    have hrest : ∀ other ∈ rest, other.Inside (text.take first.start.toNat).length :=
      fun other hother => inside_take hfirst (hinside other (List.mem_cons_of_mem _ hother))
        (horder.1 other hother)
    rw [hsplit, growthOf_cons]
    rw [List.mem_cons] at hmem
    cases hmem with
    | inl heq =>
      subst heq
      refine ⟨_, _, rfl, ?_⟩
      have hlength := (@foldl_apply_append rest _ [] hrest horder.2).2
      rw [length_take_start hfirst] at hlength
      rw [hlength, if_neg (by simp), Int.zero_add,
        Int.toNat_of_nonneg hfirst.start_nonneg]
      congr 1
      apply growthOf_congr
      intro other hother
      obtain ⟨hstop, hstart⟩ := horder.1 other hother
      rw [decide_eq_true hstart, decide_eq_true hstop]
      rfl
    | inr hmem =>
      obtain ⟨front, back, heq, hlength⟩ := ih hrest horder.2 hmem
      have hbefore := (horder.1 edit hmem).2
      refine ⟨front, back ++ (first.replacement.toList ++ text.drop first.stop.toNat), ?_, ?_⟩
      . rw [heq]
        simp only [List.append_assoc]
      . rw [hlength, if_neg (by simp; omega), Int.zero_add]

end

/-! ### Compatible edits -/

theorem isMadeBefore_iff {edit other : Edit} :
    edit.isMadeBefore other = true ↔
      other.start < edit.start ∨ edit.start = other.start ∧ other.stop ≤ edit.stop := by
  unfold isMadeBefore
  split
  . next h =>
    rw [decide_eq_true_eq]
    omega
  . next h =>
    rw [decide_eq_true_eq]
    omega

theorem isBefore_of_isMadeBefore {edit other : Edit} (hedit : edit.start ≤ edit.stop)
    (hother : other.start ≤ other.stop) (hmade : edit.isMadeBefore other = true)
    (hcompatible : edit.conflictsWith other = false) : other.IsBefore edit := by
  rw [isMadeBefore_iff] at hmade
  simp only [conflictsWith, Bool.or_eq_false_iff, Bool.and_eq_false_iff, decide_eq_false_iff_not,
    beq_eq_false_iff_ne] at hcompatible
  unfold IsBefore
  omega

theorem conflictsWith_comm (edit other : Edit) :
    edit.conflictsWith other = other.conflictsWith edit := by
  rw [Bool.eq_iff_iff]
  simp only [conflictsWith, Bool.or_eq_true, Bool.and_eq_true, decide_eq_true_eq, beq_iff_eq]
  omega

/--
The edits of a fix in the order in which they are made.
-/
def inOrder (edits : List Edit) : List Edit :=
  edits.mergeSort isMadeBefore

theorem inOrder_perm (edits : List Edit) : (inOrder edits).Perm edits :=
  List.mergeSort_perm _ _

variable {text : List Char} {edits : List Edit} {edit : Edit}

theorem pairwise_inOrder (hinside : ∀ edit ∈ edits, edit.Inside text.length)
    (hcompatible : edits.Pairwise fun edit other => edit.conflictsWith other = false) :
    (inOrder edits).Pairwise fun edit other => other.IsBefore edit := by
  have hmade : (inOrder edits).Pairwise fun edit other => edit.isMadeBefore other = true := by
    apply List.pairwise_mergeSort
    . intro first second third
      rw [isMadeBefore_iff, isMadeBefore_iff, isMadeBefore_iff]
      omega
    . intro first second
      rw [Bool.or_eq_true, isMadeBefore_iff, isMadeBefore_iff]
      omega
  have hcompatible : (inOrder edits).Pairwise fun edit other => edit.conflictsWith other = false :=
    hcompatible.perm (inOrder_perm edits).symm fun h => by rwa [conflictsWith_comm]
  have hboth := hmade.and hcompatible
  apply hboth.imp_of_mem
  intro edit other hedit hother h
  have hedit := hinside edit ((inOrder_perm edits).mem_iff.1 hedit)
  have hother := hinside other ((inOrder_perm edits).mem_iff.1 hother)
  exact isBefore_of_isMadeBefore hedit.start_le_stop hother.start_le_stop h.1 h.2

theorem length_splice (hinside : ∀ edit ∈ edits, edit.Inside text.length)
    (hcompatible : edits.Pairwise fun edit other => edit.conflictsWith other = false) :
    ((splice text edits).length : Int) = text.length + growthOf edits fun _ => true := by
  have hperm := inOrder_perm edits
  rw [← growthOf_perm hperm]
  exact (@foldl_apply_append (inOrder edits) text []
    (fun edit hedit => hinside edit (hperm.mem_iff.1 hedit))
    (pairwise_inOrder hinside hcompatible)).2

theorem splice_singleton {start stop : Nat} {replacement : String} (h : start ≤ stop)
    (hstop : stop ≤ text.length) :
    splice text [⟨start, stop, replacement⟩]
      = text.take start ++ (replacement.toList ++ text.drop stop) := by
  unfold splice
  rw [List.mergeSort_singleton, List.foldl_cons, List.foldl_nil]
  have happly := @apply_append ⟨start, stop, replacement⟩ text [] (inside_of_le h hstop)
  rw [List.append_nil, List.append_nil] at happly
  exact happly

/-- What an edit writes is what a text goes on with where the edit begins. -/
theorem drop_splice_singleton {start stop : Nat} {replacement : String} (h : start ≤ stop)
    (hstop : stop ≤ text.length) :
    (splice text [⟨start, stop, replacement⟩]).drop start
      = replacement.toList ++ text.drop stop := by
  rw [splice_singleton h hstop, List.drop_left']
  rw [List.length_take]
  omega

/-- What is written inside the replacement of an edit stands there in the new text. -/
theorem take_drop_splice {front part back : List Char}
    (h : edit.Inside text.length) (hreplacement : edit.replacement.toList = front ++ (part ++ back)) :
    ((splice text [edit]).drop (edit.start.toNat + front.length)).take part.length = part := by
  obtain ⟨start, stop, replacement⟩ := edit
  obtain ⟨hstart, hle, hstop⟩ := h
  dsimp only at hstart hle hstop hreplacement ⊢
  obtain ⟨start, rfl⟩ := Int.eq_ofNat_of_zero_le hstart
  obtain ⟨stop, rfl⟩ := Int.eq_ofNat_of_zero_le (Int.le_trans hstart hle)
  have hle : start ≤ stop := Int.ofNat_le.1 hle
  have hstop : stop ≤ text.length := Int.ofNat_le.1 hstop
  rw [Int.toNat_natCast, ← List.drop_drop]
  change (((splice text [⟨(start : Nat), (stop : Nat), replacement⟩]).drop start).drop
    front.length).take part.length = part
  rw [drop_splice_singleton hle hstop, hreplacement, List.append_assoc, List.drop_left,
    List.append_assoc, List.take_left]

/--
Where what an edit writes begins, behind the white space in front.
-/
def beginning (edit : Edit) : Nat :=
  edit.start.toNat + (edit.replacement.toList.takeWhile Text.isBlank).length

/-- What an insertion writes behind white space stands where it begins. -/
theorem drop_beginning {offset : Nat} {blanks written : String}
    (hoffset : offset ≤ text.length) (hblanks : ∀ c ∈ blanks.toList, Text.isBlank c = true)
    (hwritten : written.toList.head?.any (fun c => !Text.isBlank c) = true) :
    (splice text [⟨offset, offset, blanks ++ written⟩]).drop
        (⟨offset, offset, blanks ++ written⟩ : Edit).beginning
      = written.toList ++ text.drop offset := by
  have hbeginning : (⟨offset, offset, blanks ++ written⟩ : Edit).beginning
      = offset + blanks.toList.length := by
    obtain ⟨c, hc, hblank⟩ := (Option.any_eq_true _ _).1 hwritten
    obtain ⟨rest, hrest⟩ := List.head?_eq_some_iff.1 hc
    unfold beginning
    dsimp only
    rw [String.toList_append, List.takeWhile_append_of_pos hblanks, hrest,
      List.takeWhile_cons_of_neg (by simpa using hblank), List.append_nil, Int.toNat_natCast]
  rw [hbeginning, ← List.drop_drop, drop_splice_singleton (Nat.le_refl _) hoffset,
    String.toList_append, List.append_assoc, List.drop_left]

/-! ### Carried extents -/

theorem carriedStart_singleton {start stop offset : Nat} {replacement : String}
    (h : offset ≤ start) : carriedStart [⟨start, stop, replacement⟩] offset = offset := by
  unfold carriedStart
  rw [growthOf_eq_zero]
  . omega
  . intro edit hedit
    rw [List.mem_singleton] at hedit
    rw [hedit]
    simp
    omega

theorem carriedStop_singleton {start stop offset : Nat} {replacement : String}
    (h : start ≤ stop) (hoffset : stop ≤ offset) :
    carriedStop [⟨start, stop, replacement⟩] offset
      = offset - (stop - start) + replacement.length := by
  unfold carriedStop
  rw [growthOf_cons, if_pos (by simp; omega), growthOf_eq_zero (by simp), growth]
  dsimp only
  omega

/-- What an edit of a fix writes stands where what it replaces is carried. -/
theorem exists_splice_eq {start stop : Nat} {replacement : String}
    (hinside : ∀ edit ∈ edits, edit.Inside text.length)
    (hcompatible : edits.Pairwise fun edit other => edit.conflictsWith other = false)
    (hlt : ∀ edit ∈ edits, edit.start < edit.stop) (hmem : ⟨start, stop, replacement⟩ ∈ edits) :
    ∃ front back, splice text edits = front ++ (replacement.toList ++ back) ∧
      carriedStart edits start = front.length ∧
      carriedStop edits stop = front.length + replacement.length := by
  have hperm := inOrder_perm edits
  obtain ⟨front, back, heq, hlength⟩ := exists_foldl_eq
    (fun edit hedit => hinside edit (hperm.mem_iff.1 hedit))
    (pairwise_inOrder hinside hcompatible) (hperm.mem_iff.2 hmem)
  rw [growthOf_perm hperm] at hlength
  dsimp only at hlength
  refine ⟨front, back, heq, ?_, ?_⟩
  . unfold carriedStart
    omega
  -- The other edits end in front of the edit, or begin behind it.
  . have herase := List.perm_cons_erase hmem
    have hothers := (hcompatible.perm herase fun h => by rwa [conflictsWith_comm])
    have hsame : growthOf (edits.erase ⟨start, stop, replacement⟩) (fun other =>
          decide (other.start < stop) || decide (other.stop ≤ stop))
        = growthOf (edits.erase ⟨start, stop, replacement⟩) fun other =>
          decide (other.start < start) && decide (other.stop ≤ start) := by
      apply growthOf_congr
      intro other hother
      have hclash := (List.pairwise_cons.1 hothers).1 other hother
      have hother := hlt other (List.mem_of_mem_erase hother)
      have hedit := hlt _ hmem
      unfold conflictsWith at hclash
      rw [Bool.eq_iff_iff]
      simp at hclash hedit ⊢
      omega
    rw [growthOf_perm herase, growthOf_cons, if_neg (by simp)] at hlength
    have hedit := hlt _ hmem
    unfold carriedStop
    rw [growthOf_perm herase, growthOf_cons, if_pos (by simp), hsame, growth]
    dsimp only at hedit ⊢
    omega

end Edit

end ThreadLint
