import ThreadLint.Proofs.Bounds
import ThreadLint.Proofs.Selection

/-!
This module contains what comes of fixes that are made together. They are selected one by one in the
order of their findings, and what they make of the text is the same as if all edits were made at once.
-/

namespace ThreadLint

namespace Edit

/-! ### Edits that are made at once -/

/--
Whether an edit begins in front of another one, or where it begins and ends no later.
-/
def comesFirst (edit other : Edit) : Bool :=
  decide (edit.start < other.start) ||
    (decide (edit.start = other.start) && decide (edit.stop ≤ other.stop))

/--
Edits in the order in which they begin and end.
-/
def ascending (edits : List Edit) : List Edit :=
  edits.mergeSort comesFirst

/--
What stands between ascending edits from an offset on: in front of the first one, between any two that
follow each other, and behind the last one.
-/
def gaps (text : List Char) (offset : Nat) : List Edit → List (List Char)
  | [] => [text.drop offset]
  | edit :: rest => (text.take edit.start.toNat).drop offset :: gaps text edit.stop.toNat rest

/--
Gaps with what edits write between them.
-/
def woven : List (List Char) → List Edit → List Char
  | gap :: gaps, edit :: edits => gap ++ (edit.replacement.toList ++ woven gaps edits)
  | gaps, _ => gaps.flatten

/--
Whether an edit replaces the character at an offset.
-/
def replaces (edit : Edit) (offset : Nat) : Bool :=
  decide (edit.start ≤ offset) && decide (offset < edit.stop)

/--
Whether no edit replaces the character at an offset.
-/
def spare (edits : List Edit) (offset : Nat) : Bool :=
  edits.all fun edit => !edit.replaces offset

/--
The characters of a text that no edit replaces, in their order.
-/
def survivors (text : List Char) (edits : List Edit) : List Char :=
  (text.zipIdx.filter fun place => spare edits place.2).map Prod.fst

variable {text : List Char} {edits : List Edit} {edit other : Edit}

theorem comesFirst_iff :
    edit.comesFirst other = true ↔
      edit.start < other.start ∨ edit.start = other.start ∧ edit.stop ≤ other.stop := by
  simp [comesFirst]

theorem ascending_perm (edits : List Edit) : (ascending edits).Perm edits :=
  List.mergeSort_perm _ _

theorem pairwise_ascending (edits : List Edit) :
    (ascending edits).Pairwise fun edit other => edit.comesFirst other = true := by
  apply List.pairwise_mergeSort
  . intro first second third
    rw [comesFirst_iff, comesFirst_iff, comesFirst_iff]
    omega
  . intro first second
    rw [Bool.or_eq_true, comesFirst_iff, comesFirst_iff]
    omega

/-- Of compatible edits in ascending order each ends where the next one begins or in front of it. -/
theorem isBefore_ascending (hinside : ∀ edit ∈ edits, edit.Inside text.length)
    (hcompatible : edits.Pairwise fun edit other => edit.conflictsWith other = false) :
    (ascending edits).Pairwise IsBefore := by
  have hperm := ascending_perm edits
  have hcompatible := hcompatible.perm hperm.symm fun h => by rwa [conflictsWith_comm]
  apply ((pairwise_ascending edits).and hcompatible).imp_of_mem
  intro edit other hedit hother h
  have hedit := hinside edit (hperm.mem_iff.1 hedit)
  have hother := hinside other (hperm.mem_iff.1 hother)
  rw [conflictsWith_comm] at h
  refine isBefore_of_isMadeBefore hother.start_le_stop hedit.start_le_stop ?_ h.2
  rw [isMadeBefore_iff]
  have := comesFirst_iff.1 h.1
  omega

/-- Edits are made in the opposite order, as no two of them begin at one offset. -/
theorem inOrder_eq_reverse (hinside : ∀ edit ∈ edits, edit.Inside text.length)
    (hcompatible : edits.Pairwise fun edit other => edit.conflictsWith other = false) :
    inOrder edits = (ascending edits).reverse := by
  have hantisymm (edit other : Edit) (_ : edit ∈ inOrder edits) (_ : other ∈ (ascending edits).reverse)
      (h : other.IsBefore edit) (h' : edit.IsBefore other) : edit = other := by
    have := h.2
    have := h'.2
    omega
  have hreverse : (ascending edits).reverse.Pairwise fun edit other => other.IsBefore edit := by
    rw [List.pairwise_reverse]
    exact isBefore_ascending hinside hcompatible
  have hperm : (inOrder edits).Perm (ascending edits).reverse :=
    (inOrder_perm edits).trans ((ascending_perm edits).symm.trans (List.reverse_perm _).symm)
  exact hperm.eq_of_pairwise hantisymm (pairwise_inOrder hinside hcompatible) hreverse

/-- Making the last edit first is making all of them at once, behind an offset in front of them. -/
theorem foldr_apply_eq {offset : Nat} (hinside : ∀ edit ∈ edits, edit.Inside text.length)
    (horder : edits.Pairwise IsBefore) (hoffset : ∀ edit ∈ edits, (offset : Int) ≤ edit.start)
    (hle : offset ≤ text.length) :
    edits.foldr apply text = text.take offset ++ woven (gaps text offset edits) edits := by
  -- the gap in front of the rest begins where the edit ends, so the offset is left open
  induction edits generalizing offset with
  | nil => simp [gaps, woven]
  | cons edit rest ih =>
    obtain ⟨hstart, hstop, hlength⟩ := hinside edit List.mem_cons_self
    have hfirst := hoffset edit List.mem_cons_self
    rw [List.pairwise_cons] at horder
    have hbehind : ∀ other ∈ rest, (edit.stop.toNat : Int) ≤ other.start := by
      intro other hother
      have := (horder.1 other hother).1
      omega
    have hrest := ih (fun other hother => hinside other (List.mem_cons_of_mem _ hother)) horder.2
      hbehind (by omega)
    have hfront : edit.Inside (text.take edit.stop.toNat).length := by
      refine ⟨hstart, hstop, ?_⟩
      rw [List.length_take]
      omega
    have hgap : text.take offset ++ (text.take edit.start.toNat).drop offset
        = text.take edit.start.toNat := by
      rw [← List.take_append_drop offset (text.take edit.start.toNat), List.take_take,
        Nat.min_eq_left (by omega), List.drop_append_of_le_length (by rw [List.length_take]; omega)]
      simp [List.drop_take]
    have hcut : (text.take edit.stop.toNat).drop edit.stop.toNat = [] := by
      simp
    rw [List.foldr_cons, hrest, apply_append hfront, gaps, woven, hcut, List.take_take,
      Nat.min_eq_left (by omega), List.append_nil, ← List.append_assoc (text.take offset), hgap]

/-- Compatible edits make of a text what comes between them and what they write. -/
theorem splice_eq_woven (hinside : ∀ edit ∈ edits, edit.Inside text.length)
    (hcompatible : edits.Pairwise fun edit other => edit.conflictsWith other = false) :
    splice text edits = woven (gaps text 0 (ascending edits)) (ascending edits) := by
  have hsplice : splice text edits = (inOrder edits).foldl (fun text edit => edit.apply text) text :=
    rfl
  have hperm := ascending_perm edits
  have hinside' : ∀ edit ∈ ascending edits, edit.Inside text.length :=
    fun edit hedit => hinside edit (hperm.mem_iff.1 hedit)
  rw [hsplice, inOrder_eq_reverse hinside hcompatible, List.foldl_reverse]
  exact foldr_apply_eq hinside' (isBefore_ascending hinside hcompatible)
    (fun edit hedit => (hinside' edit hedit).start_nonneg) (Nat.zero_le _)

/-! ### What edits leave -/

/-- Only what is not replaced is left, whatever is written for it. -/
example : survivors "abcd".toList [⟨1, 3, "x"⟩] = ['a', 'd'] := by
  decide +kernel

theorem drop_eq_append {start stop : Nat} (h : start ≤ stop) :
    text.drop start = (text.take stop).drop start ++ text.drop stop := by
  have hsplit := List.take_append_drop (stop - start) (text.drop start)
  rw [List.drop_drop, Nat.add_sub_cancel' h] at hsplit
  rw [List.drop_take, hsplit]

theorem replaces_iff {offset : Nat} :
    edit.replaces offset = true ↔ edit.start ≤ offset ∧ (offset : Int) < edit.stop := by
  simp [replaces]

theorem spare_of_lt {offset : Nat} (h : ∀ edit ∈ edits, (offset : Int) < edit.start) :
    spare edits offset = true := by
  unfold spare
  rw [List.all_eq_true]
  intro edit hedit
  have := h edit hedit
  rw [Bool.not_eq_true', ← Bool.not_eq_true, replaces_iff]
  omega

theorem spare_cons_of_replaces {offset : Nat} (h : edit.replaces offset = true) :
    spare (edit :: edits) offset = false := by
  rw [spare, List.all_cons, h]
  rfl

theorem spare_cons_of_le {offset : Nat} (h : edit.stop ≤ offset) :
    spare (edit :: edits) offset = spare edits offset := by
  have hnot : edit.replaces offset = false := by
    rw [← Bool.not_eq_true, replaces_iff]
    omega
  rw [spare, List.all_cons, hnot]
  rfl

/-- The gaps between ascending edits hold the characters that no edit replaces. -/
theorem flatten_gaps {offset : Nat} (hinside : ∀ edit ∈ edits, edit.Inside text.length)
    (horder : edits.Pairwise IsBefore) (hoffset : ∀ edit ∈ edits, (offset : Int) ≤ edit.start) :
    (gaps text offset edits).flatten
      = (((text.drop offset).zipIdx offset).filter fun place => spare edits place.2).map
          Prod.fst := by
  induction edits generalizing offset with
  | nil => simp [gaps, spare]
  | cons edit rest ih =>
    obtain ⟨hstart, hstop, hlength⟩ := hinside edit List.mem_cons_self
    have hfirst := hoffset edit List.mem_cons_self
    rw [List.pairwise_cons] at horder
    have hnext : ∀ other ∈ rest, (edit.stop.toNat : Int) ≤ other.start := by
      intro other hother
      have := (horder.1 other hother).1
      omega
    have hrest := ih (fun other hother => hinside other (List.mem_cons_of_mem _ hother)) horder.2
      hnext
    -- the text from the offset on: the first gap, what the edit replaces, and what is behind it
    have hsplit : text.drop offset = (text.take edit.start.toNat).drop offset ++
        ((text.take edit.stop.toNat).drop edit.start.toNat ++ text.drop edit.stop.toNat) := by
      rw [← drop_eq_append (by omega), ← drop_eq_append (by omega)]
    have hgap : ∀ place ∈ ((text.take edit.start.toNat).drop offset).zipIdx offset,
        spare (edit :: rest) place.2 = true := by
      intro place hplace
      have hlt := List.snd_lt_add_of_mem_zipIdx hplace
      rw [List.length_drop, List.length_take] at hlt
      apply spare_of_lt
      rw [List.forall_mem_cons]
      refine ⟨by omega, fun other hother => ?_⟩
      have := (horder.1 other hother).2
      omega
    have hcut : ∀ place ∈ ((text.take edit.stop.toNat).drop edit.start.toNat).zipIdx edit.start.toNat,
        ¬spare (edit :: rest) place.2 = true := by
      intro place hplace
      have hge := List.le_snd_of_mem_zipIdx hplace
      have hlt := List.snd_lt_add_of_mem_zipIdx hplace
      rw [List.length_drop, List.length_take] at hlt
      rw [spare_cons_of_replaces (replaces_iff.2 (by omega))]
      exact Bool.false_ne_true
    have hbehind : ∀ place ∈ (text.drop edit.stop.toNat).zipIdx edit.stop.toNat,
        spare (edit :: rest) place.2 = spare rest place.2 := by
      intro place hplace
      have hge := List.le_snd_of_mem_zipIdx hplace
      exact spare_cons_of_le (by omega)
    have hlengths : offset + ((text.take edit.start.toNat).drop offset).length = edit.start.toNat ∧
        edit.start.toNat + ((text.take edit.stop.toNat).drop edit.start.toNat).length
          = edit.stop.toNat := by
      simp only [List.length_drop, List.length_take]
      omega
    rw [gaps, List.flatten_cons, hrest, hsplit, List.zipIdx_append, List.zipIdx_append,
      hlengths.1, hlengths.2, List.filter_append, List.filter_append, List.filter_eq_self.2 hgap,
      List.filter_eq_nil_iff.2 hcut, List.filter_congr hbehind, List.nil_append, List.map_append,
      List.zipIdx_map_fst]

/-- The characters that survive are those between the edits, each of them once and in order. -/
theorem flatten_gaps_ascending (hinside : ∀ edit ∈ edits, edit.Inside text.length)
    (hcompatible : edits.Pairwise fun edit other => edit.conflictsWith other = false) :
    (gaps text 0 (ascending edits)).flatten = survivors text (ascending edits) := by
  have hperm := ascending_perm edits
  exact flatten_gaps (fun edit hedit => hinside edit (hperm.mem_iff.1 hedit))
    (isBefore_ascending hinside hcompatible)
    fun edit hedit => (hinside edit (hperm.mem_iff.1 hedit)).start_nonneg

/-- What begins at the end of a replacement, as an insertion may, is the next edit behind it. -/
theorem eq_append_of_touching (horder : edits.Pairwise IsBefore) (hedit : edit ∈ edits)
    (hother : other ∈ edits) (hlt : edit.start < edit.stop) (htouch : other.start = edit.stop) :
    ∃ front back, edits = front ++ edit :: other :: back := by
  obtain ⟨front, rest, rfl⟩ := List.append_of_mem hedit
  rw [List.pairwise_append, List.pairwise_cons] at horder
  obtain ⟨_, ⟨hbehind, hrest⟩, hfront⟩ := horder
  rw [List.mem_append, List.mem_cons] at hother
  rcases hother with hmem | rfl | hmem
  . have := (hfront other hmem edit List.mem_cons_self).2
    omega
  . omega
  . obtain ⟨between, back, rfl⟩ := List.append_of_mem hmem
    cases between with
    | nil => exact ⟨front, back, rfl⟩
    | cons first between =>
      -- an edit between the two would begin at the same offset as the second one
      have hle := (hbehind first List.mem_cons_self).1
      have hlt := ((List.pairwise_cons.1 hrest).1 other (by simp)).2
      omega

end Edit

/-! ### Fixes that are selected one by one -/

/--
Whether an edit of the fix of a finding conflicts with one of the fixes that are made.
-/
def Finding.Clashes (finding : Finding) (made : List Finding) : Prop :=
  ∃ edit ∈ finding.edits, ∃ earlier ∈ made, ∃ other ∈ earlier.edits, edit.conflictsWith other = true

/--
What it means that, of findings in some order, the fixes of some are made and those of others skipped:
a fix is skipped if it clashes with those that are made before it, and else made as a whole.
-/
inductive Finding.Selects : List Finding → List Finding → List Finding → Prop where
  | nil : Selects [] [] []
  | pass {findings made skipped : List Finding} {finding : Finding}
      (h : Selects findings made skipped) (hfix : finding.fix = none) :
      Selects (findings ++ [finding]) made skipped
  | skip {findings made skipped : List Finding} {finding : Finding}
      (h : Selects findings made skipped) (hfix : finding.fix.isSome = true)
      (hclash : finding.Clashes made) : Selects (findings ++ [finding]) made (skipped ++ [finding])
  | make {findings made skipped : List Finding} {finding : Finding}
      (h : Selects findings made skipped) (hfix : finding.fix.isSome = true)
      (hclash : ¬ finding.Clashes made) : Selects (findings ++ [finding]) (made ++ [finding]) skipped

namespace Finding.Selects

variable {findings made skipped : List Finding}

theorem subset (h : Selects findings made skipped) : ∀ finding ∈ made, finding ∈ findings := by
  induction h with
  | nil => simp
  | pass _ _ ih => exact fun finding hmem => List.mem_append_left _ (ih finding hmem)
  | skip _ _ _ ih => exact fun finding hmem => List.mem_append_left _ (ih finding hmem)
  | make _ _ _ ih =>
    intro finding hmem
    rw [List.mem_append] at hmem ⊢
    exact hmem.imp_left (ih finding)

/-- The edits of all fixes that are made go together. -/
theorem compatible (h : Selects findings made skipped) :
    (made.flatMap Finding.edits).Pairwise fun edit other => edit.conflictsWith other = false := by
  induction h with
  | nil => exact .nil
  | pass _ _ ih => exact ih
  | skip _ _ _ ih => exact ih
  | @make _ made _ finding _ _ hclash ih =>
    rw [List.flatMap_append, List.pairwise_append]
    refine ⟨ih, ?_, ?_⟩
    . rw [List.flatMap_singleton, Finding.edits]
      split
      . next fix _ => exact fix.compatible
      . exact .nil
    . intro edit hedit other hother
      rw [List.flatMap_singleton] at hother
      obtain ⟨earlier, hearlier, hedit⟩ := List.mem_flatMap.1 hedit
      rw [Edit.conflictsWith_comm, ← Bool.not_eq_true]
      exact fun hconflict => hclash ⟨other, hother, earlier, hearlier, edit, hedit, hconflict⟩

end Finding.Selects

namespace Selection

/--
What it means that a selection is that of some findings.
-/
structure IsOf (selection : Selection) (findings made : List Finding) : Prop where
  selects : Finding.Selects findings made (selection.skipped.map SkippedFix.finding)
  accepted_eq : selection.accepted = made.flatMap Finding.edits
  applied_eq : selection.applied = made.length

variable {selection : Selection} {findings made : List Finding} {length : Nat}

theorem isSome_clash?_iff {finding : Finding} {fix : Fix} (hfix : finding.fix = some fix) :
    (clash? (made.flatMap Finding.edits) fix).isSome = true ↔ finding.Clashes made := by
  have hedits : finding.edits = fix.edits := by rw [Finding.edits, hfix]
  unfold clash? Finding.Clashes
  rw [hedits, List.findSome?_isSome_iff]
  apply exists_congr
  intro edit
  rw [List.find?_isSome]
  constructor
  . rintro ⟨hedit, other, hother, hconflict⟩
    obtain ⟨earlier, hearlier, hother⟩ := List.mem_flatMap.1 hother
    exact ⟨hedit, earlier, hearlier, other, hother, hconflict⟩
  . rintro ⟨hedit, earlier, hearlier, other, hother, hconflict⟩
    exact ⟨hedit, other, List.mem_flatMap.2 ⟨earlier, hearlier, hother⟩, hconflict⟩

/-- A finding whose edits lie inside the text is passed over, or its fix is skipped or made. -/
theorem IsOf.step (h : selection.IsOf findings made) (path : String) {finding : Finding}
    (hinside : ∀ edit ∈ finding.edits, edit.Inside length) :
    ∃ after made', step length path selection finding = .ok after ∧
      after.IsOf (findings ++ [finding]) made' := by
  obtain ⟨hselects, haccepted, happlied⟩ := h
  unfold Selection.step
  cases hfix : finding.fix with
  | none => exact ⟨selection, made, rfl, .pass hselects hfix, haccepted, happlied⟩
  | some fix =>
    have hedits : finding.edits = fix.edits := by rw [Finding.edits, hfix]
    have hsome : finding.fix.isSome = true := by rw [hfix]; rfl
    have hstray : strayEdit? length fix = none := by
      rw [strayEdit?_eq_none, ← hedits]
      exact fun edit hedit => ⟨(hinside edit hedit).start_nonneg, (hinside edit hedit).stop_le⟩
    simp only [hstray]
    unfold consider
    rw [haccepted]
    cases hclash : clash? (made.flatMap Finding.edits) fix with
    | some edit =>
      have hclashes := (isSome_clash?_iff hfix).1 (by rw [hclash]; rfl)
      refine ⟨_, made, rfl, ?_, rfl, happlied⟩
      rw [List.map_append]
      exact .skip hselects hsome hclashes
    | none =>
      have hnot : ¬ finding.Clashes made := by
        rw [← isSome_clash?_iff hfix, hclash]
        exact Bool.false_ne_true
      refine ⟨_, made ++ [finding], rfl, .make hselects hsome hnot, ?_, ?_⟩
      . simp [hedits]
      . simp [happlied]

theorem IsOf.foldlM (h : selection.IsOf findings made) (path : String) {others : List Finding}
    (hinside : ∀ finding ∈ others, ∀ edit ∈ finding.edits, edit.Inside length) :
    ∃ after made', others.foldlM (Selection.step length path) selection = .ok after ∧
      after.IsOf (findings ++ others) made' := by
  induction others generalizing selection findings made with
  | nil => exact ⟨selection, made, rfl, by rwa [List.append_nil]⟩
  | cons finding rest ih =>
    rw [List.forall_mem_cons] at hinside
    obtain ⟨between, made', hstep, hbetween⟩ := h.step path hinside.1
    obtain ⟨after, made'', hrest, hafter⟩ := ih hbetween hinside.2
    refine ⟨after, made'', ?_, ?_⟩
    . rw [List.foldlM_cons, hstep]
      exact hrest
    . rw [List.append_assoc] at hafter
      exact hafter

end Selection

/--
What comes of fixes whose edits lie inside the text, if it need not have a syntax tree: they are
considered in the order of their findings, and each of them is skipped or made as a whole. In the text
the gaps between all edits that are made, which hold the characters that none of them replaces, alternate
with what the edits write. What begins at the end of a replacement comes right behind it.
-/
theorem Outcome.ofFindings_atOnce (text : String) (findings : List Finding) (label : Option String)
    (hinside : ∀ finding ∈ findings, ∀ edit ∈ finding.edits, edit.Inside text.length) :
    ∃ outcome made, ofFindings text findings label false = .ok outcome ∧
      Finding.Selects (Finding.sorted findings) made (outcome.skipped.map SkippedFix.finding) ∧
      outcome.applied = made.length ∧
      let edits := Edit.ascending (made.flatMap Finding.edits)
      edits.Pairwise Edit.IsBefore ∧
        outcome.text.toList = Edit.woven (Edit.gaps text.toList 0 edits) edits ∧
        (Edit.gaps text.toList 0 edits).flatten = Edit.survivors text.toList edits ∧
        ∀ edit ∈ edits, ∀ other ∈ edits, edit.start < edit.stop → other.start = edit.stop →
          ∃ front back, edits = front ++ edit :: other :: back := by
  have hempty : Selection.empty.IsOf [] [] := ⟨.nil, rfl, rfl⟩
  obtain ⟨selection, made, hselection, hselects, haccepted, happlied⟩ :=
    hempty.foldlM (Source.ofString "" label).path
      fun finding hmem => hinside finding (Finding.mem_sorted.1 hmem)
  rw [List.nil_append] at hselects
  have hinside : ∀ edit ∈ made.flatMap Finding.edits, edit.Inside text.toList.length := by
    intro edit hedit
    obtain ⟨finding, hmem, hedit⟩ := List.mem_flatMap.1 hedit
    rw [String.length_toList]
    exact hinside finding (Finding.mem_sorted.1 (hselects.subset finding hmem)) edit hedit
  have hcompatible := hselects.compatible
  have hordered := Edit.isBefore_ascending hinside hcompatible
  refine ⟨{ before := text
            text := String.ofList (Edit.splice text.toList selection.accepted)
            applied := selection.applied
            skipped := selection.skipped
            diff := _ }, made, bind_eq_ok.2 ⟨selection, hselection, rfl⟩, hselects, happlied, hordered,
    ?_, ?_, ?_⟩
  . rw [String.toList_ofList, haccepted]
    exact Edit.splice_eq_woven hinside hcompatible
  . exact Edit.flatten_gaps_ascending hinside hcompatible
  . intro edit hedit other hother hlt htouch
    exact Edit.eq_append_of_touching hordered hedit hother hlt htouch

/--
A finding that wants some edit made.
-/
def Finding.wanting (edit : Edit) : Finding where
  path := "A.cs"
  rule := "wanting"
  category := none
  severity := .info
  span := Span.first
  message := "Something is missing"
  fix := some ⟨"Write it", [edit], List.cons_ne_nil _ _, List.pairwise_singleton _ _⟩

/-- An insertion at the end of a replacement is made, and one inside of it keeps it from being made. -/
theorem Outcome.ofFindings_atOnce_touching :
    let findings := [Finding.wanting ⟨3, 3, "Y"⟩, .wanting ⟨2, 4, "Z"⟩, .wanting ⟨1, 3, "X"⟩]
    ∃ outcome made, ofFindings "abcdef" findings none false = .ok outcome ∧
      Finding.Selects (Finding.sorted findings) made (outcome.skipped.map SkippedFix.finding) ∧
      outcome.text = "aXYdef" := by
  intro findings
  have hinside : ∀ finding ∈ findings, ∀ edit ∈ finding.edits, edit.Inside "abcdef".length := by
    intro finding hfinding edit hedit
    simp only [findings, List.mem_cons, List.not_mem_nil, or_false] at hfinding
    rcases hfinding with rfl | rfl | rfl
    all_goals
      cases List.mem_singleton.1 hedit
      constructor <;> decide
  have hsorted : Finding.sorted findings = findings := by
    unfold Finding.sorted
    apply List.mergeSort_of_pairwise
    decide
  obtain ⟨outcome, made, houtcome, hselects, _⟩ := ofFindings_atOnce "abcdef" findings none hinside
  refine ⟨outcome, made, houtcome, hselects, ?_⟩
  have hselection : (Selection.ofFindings "abcdef".length (Source.ofString "" none).path findings).map
      Selection.accepted = .ok [⟨3, 3, "Y"⟩, ⟨1, 3, "X"⟩] := by
    rw [Selection.ofFindings, hsorted]
    decide +kernel
  obtain ⟨selection, hselection, haccepted⟩ := map_eq_ok.1 hselection
  have hsplice : Edit.splice "abcdef".toList selection.accepted = "aXYdef".toList := by
    rw [haccepted, Edit.splice, List.mergeSort_of_pairwise (by decide)]
    decide +kernel
  obtain ⟨other, hother, houtcome⟩ := bind_eq_ok.1 houtcome
  cases hselection.symm.trans hother
  cases houtcome
  rw [hsplice, String.ofList_toList]

end ThreadLint
