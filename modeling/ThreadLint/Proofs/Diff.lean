import ThreadLint.Proofs.Diff.Patch

/-!
This module contains what a difference in unified form is worth: it is empty exactly between equal
texts, and otherwise it can be read and applied to the one text, which gives the other.
-/

namespace ThreadLint.Diff

variable {old new : Array String} {window inner : Window}

/-! ### Lines of a range -/

theorem slice_append {lines : Array String} {low middle high : Nat} (hlow : low ≤ middle)
    (hhigh : middle ≤ high) : slice lines low middle ++ slice lines middle high = slice lines low high := by
  rw [slice, slice, slice, ← Array.toList_append, Array.extract_append_extract, Nat.min_eq_left hlow,
    Nat.max_eq_right hhigh]

theorem slice_self (lines : Array String) (place : Nat) : slice lines place place = [] := by
  rw [slice, ← List.length_eq_zero_iff, Array.length_toList, Array.size_extract]
  omega

theorem slice_all (lines : Array String) : slice lines 0 lines.size = lines.toList := by
  rw [slice, Array.extract_size]

theorem IsSame.slice_eq (h : IsSame old new window) :
    slice old window.beforeLow window.beforeHigh = slice new window.afterLow window.afterHigh := by
  obtain ⟨count, hbefore, hafter, hsame⟩ := h
  apply List.ext_getElem?
  intro offset
  rw [getElem?_slice, getElem?_slice]
  split
  . rw [if_pos (by omega), hsame offset (by omega)]
  . rw [if_neg (by omega)]

/-! ### Hunks as parts -/

/--
The changes that a stretch shows.
-/
def Segment.changes (old new : Array String) (segment : Segment) : List Change :=
  let window := segment.window
  let lines := slice old window.beforeLow window.beforeHigh
  if segment.isCommon then lines.map .kept
  else lines.map .removed ++ (slice new window.afterLow window.afterHigh).map .added

theorem segmentLines_eq (old new : Array String) (segment : Segment) :
    segmentLines old new segment = (segment.changes old new).map Change.written := by
  unfold segmentLines Segment.changes
  dsimp only
  split
  . rw [marked, List.map_map]
    rfl
  . rw [marked, marked, List.map_append, List.map_map, List.map_map]
    rfl

/-- The changes of a stretch turn its lines in the one text into those in the other. -/
theorem applyChanges_segment {segment : Segment} (h : segment.Fits old new) (changes : List Change)
    (lines : List String) :
    applyChanges (segment.changes old new ++ changes)
        (slice old segment.window.beforeLow segment.window.beforeHigh ++ lines) =
      (applyChanges changes lines).map fun (made, rest) =>
        (slice new segment.window.afterLow segment.window.afterHigh ++ made, rest) := by
  unfold Segment.changes
  dsimp only
  split
  . next hcommon => rw [applyChanges_kept, (h.isSame hcommon).slice_eq]
  . rw [List.append_assoc, applyChanges_removed, applyChanges_added]

/-- The changes of a hunk turn the lines that it covers in the one text into those in the other. -/
theorem applyChanges_hunk {hunk : Hunk} (h : Covers old new window hunk) (lines : List String) :
    applyChanges (hunk.flatMap (Segment.changes old new))
        (slice old window.beforeLow window.beforeHigh ++ lines) =
      some (slice new window.afterLow window.afterHigh, lines) := by
  induction h with
  | nil before after =>
    rw [slice_self, slice_self]
    rfl
  | cons hbefore hafter hfits hrest ih =>
    obtain ⟨hle, hle'⟩ := hrest.low_le_high
    dsimp only at ih
    rw [← hbefore, ← hafter, ← slice_append hfits.before_le hle, ← slice_append hfits.after_le hle',
      List.flatMap_cons, List.append_assoc, applyChanges_segment hfits, ih]
    rfl

/-- The changes of a hunk are about as many lines as it covers. -/
theorem count_changes_hunk {hunk : Hunk} (h : Covers old new window hunk)
    (hbefore : window.beforeHigh ≤ old.size) (hafter : window.afterHigh ≤ new.size) :
    let changes := hunk.flatMap (Segment.changes old new)
    oldCount changes = window.beforeHigh - window.beforeLow ∧
      newCount changes = window.afterHigh - window.afterLow := by
  obtain ⟨hold, hnew⟩ := length_of_applyChanges (applyChanges_hunk h [])
  rw [List.append_nil, length_slice hbefore] at hold
  rw [length_slice hafter] at hnew
  exact ⟨hold.symm, hnew.symm⟩

/--
The part that a hunk shows.
-/
def Part.ofHunk (old new : Array String) (window : Window) (hunk : Hunk) : Part where
  before := .between window.beforeLow window.beforeHigh
  after := .between window.afterLow window.afterHigh
  changes := hunk.flatMap (Segment.changes old new)

theorem Covers.of_nil (h : Covers old new window []) :
    window.beforeLow = window.beforeHigh ∧ window.afterLow = window.afterHigh := by
  cases h
  exact ⟨rfl, rfl⟩

theorem Covers.getLast? {hunk : Hunk} {last : Segment} (h : Covers old new window hunk)
    (hlast : hunk.getLast? = some last) :
    last.window.beforeHigh = window.beforeHigh ∧ last.window.afterHigh = window.afterHigh := by
  induction h with
  | nil => cases hlast
  | @cons _ _ rest _ _ _ hrest ih =>
    cases rest with
    | nil =>
      cases hlast
      exact hrest.of_nil
    | cons => exact ih (by rwa [List.getLast?_cons_cons] at hlast)

/-- The head of a hunk states what the hunk covers. -/
theorem hunkHead_eq {hunk : Hunk} (h : Covers old new window hunk) (hne : hunk ≠ []) :
    hunkHead hunk = "@@ -" ++ rangeText window.beforeLow window.beforeHigh ++ " +" ++
      rangeText window.afterLow window.afterHigh ++ " @@\n" := by
  obtain ⟨last, hlast⟩ := Option.isSome_iff_exists.mp (List.getLast?_isSome.mpr hne)
  obtain ⟨hhigh, hhigh'⟩ := h.getLast? hlast
  cases h with
  | nil => exact absurd rfl hne
  | cons hbefore hafter _ _ =>
    rw [hunkHead, List.head?_cons, hlast]
    dsimp only
    rw [hbefore, hafter, hhigh, hhigh']

/-- A hunk is read back as its part. -/
theorem partsFrom_hunk {hunk : Hunk} (h : Covers old new window hunk) (hne : hunk ≠ [])
    (hbefore : window.beforeHigh ≤ old.size) (hafter : window.afterHigh ≤ new.size)
    {lines : List String} {parts : List Part} (hparts : partsFrom 0 0 lines = some ([], parts)) :
    partsFrom 0 0 (hunkHead hunk :: (hunk.flatMap (segmentLines old new) ++ lines)) =
      some ([], .ofHunk old new window hunk :: parts) := by
  have hlines : hunk.flatMap (segmentLines old new) =
      (hunk.flatMap (Segment.changes old new)).map Change.written := by
    rw [List.map_flatMap, funext (segmentLines_eq old new)]
  obtain ⟨hold, hnew⟩ := count_changes_hunk h hbefore hafter
  have hchanges := partsFrom_changes (hunk.flatMap (Segment.changes old new)) 0 0 lines
  rw [hparts, Nat.add_zero, Nat.add_zero, hold, hnew] at hchanges
  rw [partsFrom, if_pos ⟨rfl, rfl⟩, hunkHead_eq h hne, ranges?_head, hlines]
  simp only [Option.bind_eq_bind, Option.bind_some, Range.between, hchanges, Option.map_some]
  rw [List.append_nil]
  rfl

/-- A part is applied to the lines behind those that are the same in front of it. -/
theorem applyParts_hunk {before after : Nat} {hunk : Hunk} (h : Covers old new window hunk)
    (hfront : IsSame old new ⟨before, window.beforeLow, after, window.afterLow⟩)
    (hbefore : window.beforeHigh ≤ old.size) {lines others : List String} {parts : List Part}
    (hothers : applyParts window.beforeHigh window.afterHigh parts lines = some others) :
    applyParts before after (.ofHunk old new window hunk :: parts)
        (slice old before window.beforeLow ++
          (slice old window.beforeLow window.beforeHigh ++ lines)) =
      some (slice new after window.afterLow ++
        (slice new window.afterLow window.afterHigh ++ others)) := by
  have hle := h.low_le_high
  have hsame := hfront.slice_eq
  obtain ⟨skipped, hstart, hstart', _⟩ := hfront
  dsimp only at hsame hstart hstart'
  have hskipped : window.beforeLow - before = skipped := by omega
  have hlength : (slice old before window.beforeLow).length = skipped := by
    rw [length_slice (by omega), hskipped]
  have hlow : window.beforeLow + (window.beforeHigh - window.beforeLow) = window.beforeHigh := by omega
  have hlow' : window.afterLow + (window.afterHigh - window.afterLow) = window.afterHigh := by omega
  simp only [applyParts, Part.ofHunk, Range.offset?_between, Option.bind_eq_bind, Option.bind_some,
    hskipped]
  rw [if_neg (by rw [List.length_append, hlength]; omega), List.drop_left' hlength,
    List.take_left' hlength, applyChanges_hunk h, Option.bind_some]
  simp only [Range.between, hlow, hlow', hothers, Option.bind_some, hsame]
  rfl

theorem Apart.low_le_high {hunks : List Hunk} (h : Apart old new window hunks) :
    window.beforeLow ≤ window.beforeHigh ∧ window.afterLow ≤ window.afterHigh := by
  induction h with
  | nil hsame =>
    obtain ⟨_, hbefore, hafter, _⟩ := hsame
    omega
  | cons hhunk _ hfront _ ih =>
    obtain ⟨_, hbefore, hafter, _⟩ := hfront
    have hle := hhunk.low_le_high
    dsimp only at hbefore hafter ih
    omega

/-- Hunks are read back as parts, and these turn one text into the other. -/
theorem exists_parts {hunks : List Hunk} (h : Apart old new window hunks)
    (hbefore : window.beforeHigh ≤ old.size) (hafter : window.afterHigh ≤ new.size) :
    ∃ parts,
      partsFrom 0 0 (hunks.flatMap fun hunk => hunkHead hunk :: hunk.flatMap (segmentLines old new)) =
        some ([], parts) ∧
      applyParts window.beforeLow window.afterLow parts
          (slice old window.beforeLow window.beforeHigh) =
        some (slice new window.afterLow window.afterHigh) := by
  induction h with
  | nil hsame => exact ⟨[], rfl, congrArg some hsame.slice_eq⟩
  | @cons window inner hunk rest hhunk hne hfront hrest ih =>
    obtain ⟨parts, hread, hmade⟩ := ih hbefore hafter
    dsimp only at hmade
    obtain ⟨hlow, hlow'⟩ := hhunk.low_le_high
    obtain ⟨hhigh, hhigh'⟩ := hrest.low_le_high
    obtain ⟨count, hstart, hstart', _⟩ := id hfront
    dsimp only at hstart hstart' hhigh hhigh'
    have hread := partsFrom_hunk hhunk hne (by omega) (by omega) hread
    have hmade := applyParts_hunk hhunk hfront (by omega) hmade
    refine ⟨_, hread, ?_⟩
    rwa [slice_append hlow hhigh, slice_append hlow' hhigh', slice_append (by omega) (by omega),
      slice_append (by omega) (by omega)] at hmade

/-! ### Texts -/

theorem terminated_of_isFed {line : String} (h : Text.IsFed line) : terminated line = line :=
  if_pos h.endsWith

theorem isFed_hunkHead {hunk : Hunk} (hne : hunk ≠ []) : Text.IsFed (hunkHead hunk) := by
  obtain ⟨last, hlast⟩ := Option.isSome_iff_exists.mp (List.getLast?_isSome.mpr hne)
  obtain ⟨first, rest, rfl⟩ := List.exists_cons_of_ne_nil hne
  have hrange (low high : Nat) : Text.avoids ['\n'] (rangeText low high) = true :=
    Text.avoids_of_subset (by decide) (avoids_rangeText low high)
  have hend : Text.IsFed " @@\n" := ⟨" @@", by decide, by decide⟩
  rw [hunkHead, List.head?_cons, hlast]
  refine hend.append ?_
  simp only [Text.avoids_append, hrange]
  decide

theorem mem_of_mem_slice {lines : Array String} {low high : Nat} {line : String}
    (h : line ∈ slice lines low high) : line ∈ lines.toList := by
  rw [slice, Array.toList_extract] at h
  exact List.mem_of_mem_drop (List.mem_of_mem_take h)

theorem isFed_of_mem_marked {mark : String} (hmark : Text.avoids ['\n'] mark = true)
    {lines : Array String} (hlines : ∀ line ∈ lines.toList, Text.IsFed line) {low high : Nat} :
    ∀ line ∈ marked mark (slice lines low high), Text.IsFed line := by
  intro line hline
  obtain ⟨content, hcontent, rfl⟩ := List.mem_map.mp hline
  exact (hlines content (mem_of_mem_slice hcontent)).append hmark

theorem isFed_of_mem_segmentLines (hold : ∀ line ∈ old.toList, Text.IsFed line)
    (hnew : ∀ line ∈ new.toList, Text.IsFed line) (segment : Segment) :
    ∀ line ∈ segmentLines old new segment, Text.IsFed line := by
  unfold segmentLines
  dsimp only
  split
  . exact isFed_of_mem_marked (by decide) hold
  . rw [List.forall_mem_append]
    exact ⟨isFed_of_mem_marked (by decide) hold, isFed_of_mem_marked (by decide) hnew⟩

/--
The lines of hunks between two texts.
-/
def hunkLines (old new : Array String) (hunks : List Hunk) : List String :=
  hunks.flatMap fun hunk => hunkHead hunk :: hunk.flatMap (segmentLines old new)

theorem isFed_of_mem_hunkLines (hold : ∀ line ∈ old.toList, Text.IsFed line)
    (hnew : ∀ line ∈ new.toList, Text.IsFed line) {hunks : List Hunk}
    (h : Apart old new window hunks) : ∀ line ∈ hunkLines old new hunks, Text.IsFed line := by
  induction h with
  | nil => exact fun _ hline => absurd hline List.not_mem_nil
  | cons hhunk hne _ _ ih =>
    rw [hunkLines, List.flatMap_cons, List.forall_mem_append, List.forall_mem_cons]
    refine ⟨⟨isFed_hunkHead hne, ?_⟩, ih⟩
    intro line hline
    obtain ⟨segment, _, hline⟩ := List.mem_flatMap.mp hline
    exact isFed_of_mem_segmentLines hold hnew segment line hline

/--
The lines with the names of the two texts.
-/
def nameLines (path : String) : List String :=
  ["--- a/" ++ path ++ "\n", "+++ b/" ++ path ++ "\n"]

theorem isFed_of_mem_nameLines {path : String} (h : Text.avoids ['\n'] path = true) :
    ∀ line ∈ nameLines path, Text.IsFed line := by
  have hend : Text.IsFed "\n" := ⟨"", by decide, by decide⟩
  have hname (mark : String) (hmark : Text.avoids ['\n'] mark = true) :
      Text.IsFed (mark ++ path ++ "\n") :=
    hend.append (by rw [Text.avoids_append, hmark, h]; rfl)
  rw [nameLines, List.forall_mem_cons, List.forall_mem_singleton]
  exact ⟨hname _ (by decide), hname _ (by decide)⟩

/-- Texts without hunks between them are equal. -/
theorem hunks_ne_nil {before after : String} (context : Nat) (hne : before ≠ after) :
    hunks (Text.lines before).toArray (Text.lines after).toArray context ≠ [] := by
  intro hnil
  have hapart := apart_hunks (Text.lines before).toArray (Text.lines after).toArray context
  rw [hnil] at hapart
  cases hapart with
  | nil hsame =>
    have hlines := hsame.slice_eq
    dsimp only at hlines
    rw [slice_all, slice_all] at hlines
    have hjoin := congrArg String.join hlines
    rw [Text.join_lines, Text.join_lines] at hjoin
    exact hne hjoin

/-- The difference of texts that differ begins with the two names. -/
theorem unified_of_ne {path before after : String} (context : Nat) (hne : before ≠ after)
    (hpath : Text.avoids ['\n'] path = true)
    (hbefore : ∀ line ∈ Text.lines before, Text.IsFed line)
    (hafter : ∀ line ∈ Text.lines after, Text.IsFed line) :
    let old := (Text.lines before).toArray
    let new := (Text.lines after).toArray
    let lines := nameLines path ++ hunkLines old new (hunks old new context)
    unified path before after context = String.join lines ∧ ∀ line ∈ lines, Text.IsFed line := by
  intro old new lines
  have hfed : ∀ line ∈ lines, Text.IsFed line := by
    rw [List.forall_mem_append]
    exact ⟨isFed_of_mem_nameLines hpath, isFed_of_mem_hunkLines hbefore hafter (apart_hunks old new context)⟩
  have hempty : (hunkLines old new (hunks old new context)).isEmpty = false := by
    obtain ⟨hunk, rest, hhunks⟩ := List.exists_cons_of_ne_nil (hunks_ne_nil context hne)
    rw [hhunks]
    rfl
  have hterminated : lines.map terminated = lines :=
    List.map_congr_left (fun line hline => terminated_of_isFed (hfed line hline)) |>.trans
      (List.map_id _)
  refine ⟨?_, hfed⟩
  rw [unified, if_neg hne]
  show String.join (((if (hunkLines old new (hunks old new context)).isEmpty then []
    else nameLines path) ++ hunkLines old new (hunks old new context)).map terminated) = _
  rw [hempty]
  exact congrArg String.join hterminated

/-- A name is read from its line. -/
theorem name_of_line (mark kind : String) {path : String} (hkind : Text.avoids ['\n'] kind = true)
    (hpath : Text.avoids ['\n'] path = true) :
    ∃ name, Text.behindStart? mark (mark ++ kind ++ path ++ "\n") = some name ∧
      Text.beforeFirst '\n' name = kind ++ path := by
  have hline : mark ++ kind ++ path ++ "\n" =
      mark ++ ((kind ++ path) ++ (String.singleton '\n' ++ "")) := by
    have hfeed : "\n" = String.singleton '\n' ++ "" := by decide
    rw [hfeed]
    simp only [String.append_assoc]
  have hname : Text.avoids ['\n'] (kind ++ path) = true := by
    rw [Text.avoids_append, hkind, hpath]
    rfl
  rw [hline]
  exact ⟨_, Text.behindStart?_append _ _, Text.beforeFirst_append hname _⟩

/-- Lines behind two names are read back as the names and the parts that the lines show. -/
theorem read?_join {path : String} {lines : List String} {parts : List Part}
    (hpath : Text.avoids ['\n'] path = true)
    (hfed : ∀ line ∈ nameLines path ++ lines, Text.IsFed line)
    (hparts : partsFrom 0 0 lines = some ([], parts)) :
    Patch.read? (String.join (nameLines path ++ lines)) =
      some ⟨"a/" ++ path, "b/" ++ path, parts⟩ := by
  have hmark : "--- a/" = "--- " ++ "a/" := by decide
  have hmark' : "+++ b/" = "+++ " ++ "b/" := by decide
  obtain ⟨name, hbehind, hname⟩ := name_of_line "--- " "a/" (by decide) hpath
  obtain ⟨name', hbehind', hname'⟩ := name_of_line "+++ " "b/" (by decide) hpath
  rw [← hmark] at hbehind
  rw [← hmark'] at hbehind'
  rw [Patch.read?, Text.fedLines?_join hfed]
  simp only [nameLines, List.cons_append, List.nil_append, Option.bind_eq_bind, Option.bind_some,
    hparts, hbehind, hbehind', hname, hname']
  rfl

theorem fedLines?_of_isFed {text : String} (h : ∀ line ∈ Text.lines text, Text.IsFed line) :
    Text.fedLines? text = some (Text.lines text) := by
  have hjoin := Text.fedLines?_join h
  rwa [Text.join_lines] at hjoin

/-- The difference of texts that differ is read back as a patch that turns the one into the other. -/
theorem exists_patch {path before after : String} (context : Nat) (hne : before ≠ after)
    (hpath : Text.avoids ['\n'] path = true)
    (hbefore : ∀ line ∈ Text.lines before, Text.IsFed line)
    (hafter : ∀ line ∈ Text.lines after, Text.IsFed line) :
    ∃ patch, Patch.read? (unified path before after context) = some patch ∧
      patch.oldName = "a/" ++ path ∧ patch.newName = "b/" ++ path ∧
      patch.patched? before = some after := by
  obtain ⟨hunified, hfed⟩ := unified_of_ne context hne hpath hbefore hafter
  obtain ⟨parts, hread, hmade⟩ :=
    exists_parts (apart_hunks (Text.lines before).toArray (Text.lines after).toArray context)
      (Nat.le_refl _) (Nat.le_refl _)
  dsimp only at hmade
  rw [slice_all, slice_all] at hmade
  rw [hunified]
  refine ⟨_, read?_join hpath hfed hread, rfl, rfl, ?_⟩
  rw [Patch.patched?, fedLines?_of_isFed hbefore]
  simp only [Option.bind_eq_bind, Option.bind_some, hmade]
  exact congrArg some (Text.join_lines after)

/--
The difference between two texts is empty exactly if they are equal. Otherwise it is read back with the
names of the texts, and the parts that are read turn the one text into the other, each of them where its
ranges say.
-/
theorem unified_applies {path before after : String} (context : Nat) (hpath : '\n' ∉ path.toList)
    (hbefore : ∀ line ∈ Text.lines before, Text.endsWith line "\n" = true)
    (hafter : ∀ line ∈ Text.lines after, Text.endsWith line "\n" = true) :
    (unified path before after context = "" ↔ before = after) ∧
      (before ≠ after → ∃ patch, Patch.read? (unified path before after context) = some patch ∧
        patch.oldName = "a/" ++ path ∧ patch.newName = "b/" ++ path ∧
        patch.patched? before = some after) := by
  have hpath : Text.avoids ['\n'] path = true := by simpa [Text.avoids_iff] using hpath
  have hbefore : ∀ line ∈ Text.lines before, Text.IsFed line :=
    fun line hline => Text.isFed_of_mem_lines hline (hbefore line hline)
  have hafter : ∀ line ∈ Text.lines after, Text.IsFed line :=
    fun line hline => Text.isFed_of_mem_lines hline (hafter line hline)
  refine ⟨⟨?_, ?_⟩, fun hne => exists_patch context hne hpath hbefore hafter⟩
  . -- Nothing at all is not a difference that can be read.
    intro hempty
    refine Decidable.byContradiction fun hne => ?_
    obtain ⟨patch, hread, _⟩ := exists_patch context hne hpath hbefore hafter
    rw [hempty] at hread
    cases hread
  . rintro rfl
    exact if_pos rfl

/--
Without common lines around the hunks, a line that comes in at the top and one that goes at the bottom
make two hunks with an empty range each.
-/
theorem unified_applies_bothEnds :
    let before := "a\nb\n"
    let after := "x\na\n"
    let shown := unified "C.cs" before after 0
    shown = "--- a/C.cs\n+++ b/C.cs\n@@ -0,0 +1 @@\n+x\n@@ -2 +2,0 @@\n-b\n" ∧
      ∃ patch, Patch.read? shown = some patch ∧
        patch.oldName = "a/C.cs" ∧ patch.newName = "b/C.cs" ∧ patch.patched? before = some after :=
  ⟨by decide +kernel, (unified_applies 0 (by decide) (by decide) (by decide)).2 (by decide)⟩

end ThreadLint.Diff
