import ThreadLint.Diff

/-!
This module contains what the hunks of a difference are: each of them covers a part of both texts, and
between them, in front of the first and behind the last one the texts are the same. It goes back to the
common runs of the two texts, which follow each other in both and hold the same lines in both.
-/

namespace ThreadLint.Diff

/-! ### Runs -/

variable {old new : Array String} {window : Window} {run : Run}

/--
Whether so many lines of two texts are the same from some line of each on.
-/
def SameLines (old new : Array String) (before after count : Nat) : Prop :=
  ∀ offset < count, old[before + offset]? = new[after + offset]?

theorem SameLines.append {before after count more : Nat} (h : SameLines old new before after count)
    (hmore : SameLines old new (before + count) (after + count) more) :
    SameLines old new before after (count + more) := by
  intro offset hoffset
  by_cases hfront : offset < count
  . exact h offset hfront
  . have hback := hmore (offset - count) (by omega)
    rw [Nat.add_assoc, Nat.add_assoc, Nat.add_sub_cancel' (by omega)] at hback
    exact hback

/--
Whether a run lies in a window and its lines are the same in both texts.
-/
structure IsRun (old new : Array String) (window : Window) (run : Run) : Prop where
  beforeLow_le : window.beforeLow ≤ run.before
  le_beforeHigh : run.before + run.length ≤ window.beforeHigh
  afterLow_le : window.afterLow ≤ run.after
  le_afterHigh : run.after + run.length ≤ window.afterHigh
  sameLines : SameLines old new run.before run.after run.length

/-! ### The longest run with anchors -/

/--
Whether lines in a window are the same that end in front of a line of the one text and at a place in
the other.
-/
structure EndsAt (old new : Array String) (window : Window) (stop place length : Nat) : Prop where
  le_stop : window.beforeLow + length ≤ stop
  stop_le : stop ≤ window.beforeHigh
  le_place : window.afterLow + length ≤ place + 1
  place_lt : place < window.afterHigh
  sameLines : SameLines old new (stop - length) (place + 1 - length) length

/-- A line with an anchor is the same at the anchor. -/
theorem getElem?_of_mem_anchors {line place : Nat} (h : place ∈ (anchors old new).getD line []) :
    old[line]? = new[place]? := by
  rw [anchors, Array.getD_eq_getD_getElem?, Array.getElem?_map] at h
  cases hline : old[line]? with
  | none => simp [hline] at h
  | some text =>
    rw [hline, Option.map_some, Option.getD_some] at h
    split at h
    . cases h
    . rw [List.mem_filter, beq_iff_eq] at h
      exact h.2.symm

/-- Lines that are the same up to two places stay so with one more line. -/
theorem endsAt_of_mem_nextLengths {line : Nat} {lengths : List (Nat × Nat)} {places : List Nat}
    (hlow : window.beforeLow ≤ line) (hhigh : line < window.beforeHigh)
    (hlengths : ∀ entry ∈ lengths, EndsAt old new window line entry.1 entry.2)
    (hplaces : ∀ place ∈ places, old[line]? = new[place]?) :
    ∀ entry ∈ nextLengths window lengths places,
      EndsAt old new window (line + 1) entry.1 entry.2 := by
  intro entry hentry
  rw [nextLengths, List.mem_map] at hentry
  obtain ⟨place, hplace, rfl⟩ := hentry
  rw [List.mem_filter, nextLengths.isInside, Bool.and_eq_true, decide_eq_true_iff,
    decide_eq_true_iff] at hplace
  obtain ⟨hmem, hafter, hbefore⟩ := hplace
  have hsame := hplaces place hmem
  have hone : SameLines old new line place 1 := by
    intro offset hoffset
    rw [Nat.lt_one_iff.mp hoffset]
    exact hsame
  have hstart : window.beforeLow + 1 ≤ line + 1 := Nat.succ_le_succ hlow
  have hplace : window.afterLow + 1 ≤ place + 1 := Nat.succ_le_succ hafter
  -- Lengths are kept for the line before, so there is none to go on from at the first place.
  cases place with
  | zero => exact ⟨hstart, hhigh, hplace, hbefore, hone⟩
  | succ place =>
    cases hlookup : lengths.lookup place with
    | none =>
      simp only [hlookup, Option.getD_none]
      exact ⟨hstart, hhigh, hplace, hbefore, hone⟩
    | some length =>
      have hmem : (place, length) ∈ lengths := by
        obtain ⟨front, back, heq, _⟩ := List.lookup_eq_some_iff.mp hlookup
        rw [heq]
        exact List.mem_append_right _ List.mem_cons_self
      have hend := hlengths _ hmem
      have hstop := hend.le_stop
      have hstart := hend.le_place
      simp only [hlookup, Option.getD_some]
      refine ⟨by omega, hhigh, by omega, hbefore, ?_⟩
      have hlong : SameLines old new (line - length) (place + 1 - length) (length + 1) := by
        refine hend.sameLines.append ?_
        rwa [Nat.sub_add_cancel (by omega), Nat.sub_add_cancel (by omega)]
      rwa [Nat.add_sub_add_right, Nat.add_sub_add_right]

theorem EndsAt.isRun {stop place length : Nat} (h : EndsAt old new window stop place length) :
    IsRun old new window ⟨stop - length, place + 1 - length, length⟩ := by
  obtain ⟨hstop, hhigh, hplace, hlt, hsame⟩ := h
  exact ⟨Nat.le_sub_of_add_le hstop, by dsimp only; omega, Nat.le_sub_of_add_le hplace,
    by dsimp only; omega, hsame⟩

theorem isRun_longer {line : Nat} {best : Run} {lengths : List (Nat × Nat)}
    (hbest : IsRun old new window best)
    (hlengths : ∀ entry ∈ lengths, EndsAt old new window (line + 1) entry.1 entry.2) :
    IsRun old new window (longer line best lengths) := by
  unfold longer
  induction lengths generalizing best with
  | nil => exact hbest
  | cons entry lengths ih =>
    rw [List.forall_mem_cons] at hlengths
    rw [List.foldl_cons]
    refine ih ?_ hlengths.2
    dsimp only
    split
    . exact hlengths.1.isRun
    . exact hbest

/-- What each step over a range of numbers keeps holds at the end of the range. -/
theorem foldl_range' {σ : Type} {step : σ → Nat → σ} (holds : Nat → σ → Prop) {low count : Nat}
    {state : σ} (h : holds low state)
    (hstep : ∀ n state, low ≤ n → n < low + count → holds n state → holds (n + 1) (step state n)) :
    holds (low + count) ((List.range' low count).foldl step state) := by
  induction count generalizing low state with
  | zero => exact h
  | succ count ih =>
    rw [List.range'_succ, List.foldl_cons, Nat.add_comm count, ← Nat.add_assoc]
    refine ih (hstep low state (Nat.le_refl _) (by omega) h) ?_
    intro n state hlow hhigh
    exact hstep n state (by omega) (by omega)

theorem isRun_longestAnchored (hbefore : window.beforeLow ≤ window.beforeHigh)
    (hafter : window.afterLow ≤ window.afterHigh) :
    IsRun old new window (longestAnchored (anchors old new) window) := by
  have hfirst : IsRun old new window ⟨window.beforeLow, window.afterLow, 0⟩ :=
    ⟨Nat.le_refl _, hbefore, Nat.le_refl _, hafter, fun _ h => absurd h (Nat.not_lt_zero _)⟩
  -- The best run so far is one, and each length counts equal lines that end right in front of `line`.
  refine (foldl_range' (fun line (state : Run × List (Nat × Nat)) =>
    IsRun old new window state.1 ∧
      ∀ entry ∈ state.2, EndsAt old new window line entry.1 entry.2)
    ⟨hfirst, fun _ h => absurd h List.not_mem_nil⟩ ?_).1
  rintro line ⟨best, lengths⟩ hlow hhigh ⟨hbest, hlengths⟩
  have hnext := endsAt_of_mem_nextLengths hlow (by omega) hlengths
    fun place hplace => getElem?_of_mem_anchors hplace
  exact ⟨isRun_longer hbest hnext, hnext⟩

/-! ### Runs with the equal lines around them -/

theorem commonLength_le {α : Type} [BEq α] (as bs : List α) :
    commonLength as bs ≤ as.length ∧ commonLength as bs ≤ bs.length := by
  induction as generalizing bs with
  | nil => simp [commonLength]
  | cons a as ih =>
    cases bs with
    | nil => simp [commonLength]
    | cons b bs =>
      rw [commonLength]
      split
      . simpa using ih bs
      . simp

theorem getElem?_of_lt_commonLength {α : Type} [BEq α] [LawfulBEq α] {as bs : List α} {offset : Nat}
    (h : offset < commonLength as bs) : as[offset]? = bs[offset]? := by
  induction as generalizing bs offset with
  | nil => simp [commonLength] at h
  | cons a as ih =>
    cases bs with
    | nil => simp [commonLength] at h
    | cons b bs =>
      rw [commonLength] at h
      split at h
      . next heq =>
        cases offset with
        | zero => simpa using heq
        | succ offset =>
          rw [List.getElem?_cons_succ, List.getElem?_cons_succ]
          exact ih (Nat.lt_of_succ_lt_succ h)
      . cases h

theorem getElem?_slice (lines : Array String) (low high offset : Nat) :
    (slice lines low high)[offset]? = if low + offset < high then lines[low + offset]? else none := by
  rw [slice, Array.getElem?_toList, Array.getElem?_extract]
  split
  . rw [if_pos (by omega)]
  . split
    . rw [Array.getElem?_eq_none (by omega)]
    . rfl

theorem length_slice {lines : Array String} {high : Nat} (h : high ≤ lines.size) (low : Nat) :
    (slice lines low high).length = high - low := by
  rw [slice, Array.length_toList, Array.size_extract, Nat.min_eq_left h]

theorem getElem?_reverse_slice {lines : Array String} {low high offset : Nat}
    (h : high ≤ lines.size) (hoffset : offset < high - low) :
    (slice lines low high).reverse[offset]? = lines[high - 1 - offset]? := by
  rw [List.getElem?_reverse (by rwa [length_slice h]), length_slice h, getElem?_slice, if_pos (by omega)]
  congr 1
  omega

section

variable (hbefore : window.beforeHigh ≤ old.size) (hafter : window.afterHigh ≤ new.size)

include hbefore hafter

/-- A run stays one with the equal lines in front of it. -/
theorem IsRun.growFront (h : IsRun old new window run) :
    let front := commonLength (slice old window.beforeLow run.before).reverse
      (slice new window.afterLow run.after).reverse
    IsRun old new window ⟨run.before - front, run.after - front, front + run.length⟩ := by
  intro front
  obtain ⟨hlow, hhigh, hlow', hhigh', hsame⟩ := h
  have hle : front ≤ run.before - window.beforeLow ∧ front ≤ run.after - window.afterLow := by
    have hle := commonLength_le (slice old window.beforeLow run.before).reverse
      (slice new window.afterLow run.after).reverse
    rwa [List.length_reverse, List.length_reverse, length_slice (by omega),
      length_slice (by omega)] at hle
  have hfront : SameLines old new (run.before - front) (run.after - front) front := by
    intro offset hoffset
    -- The lines in front of a run are compared backwards, beginning next to the run.
    have heq := getElem?_of_lt_commonLength (show front - 1 - offset < front by omega)
    rw [getElem?_reverse_slice (by omega) (by omega),
      getElem?_reverse_slice (by omega) (by omega)] at heq
    rwa [show run.before - front + offset = run.before - 1 - (front - 1 - offset) by omega,
      show run.after - front + offset = run.after - 1 - (front - 1 - offset) by omega]
  have hall : SameLines old new (run.before - front) (run.after - front) (front + run.length) := by
    refine hfront.append ?_
    rwa [Nat.sub_add_cancel (by omega), Nat.sub_add_cancel (by omega)]
  exact ⟨by dsimp only; omega, by dsimp only; omega, by dsimp only; omega, by dsimp only; omega, hall⟩

/-- A run stays one with the equal lines behind it. -/
theorem IsRun.growBack (h : IsRun old new window run) :
    let back := commonLength (slice old (run.before + run.length) window.beforeHigh)
      (slice new (run.after + run.length) window.afterHigh)
    IsRun old new window { run with length := run.length + back } := by
  intro back
  obtain ⟨hlow, hhigh, hlow', hhigh', hsame⟩ := h
  have hle : back ≤ window.beforeHigh - (run.before + run.length) ∧
      back ≤ window.afterHigh - (run.after + run.length) := by
    have hle := commonLength_le (slice old (run.before + run.length) window.beforeHigh)
      (slice new (run.after + run.length) window.afterHigh)
    rwa [length_slice hbefore, length_slice hafter] at hle
  have hback : SameLines old new (run.before + run.length) (run.after + run.length) back := by
    intro offset hoffset
    have heq := getElem?_of_lt_commonLength hoffset
    rwa [getElem?_slice, getElem?_slice, if_pos (by omega), if_pos (by omega)] at heq
  exact ⟨hlow, by dsimp only; omega, hlow', by dsimp only; omega, hsame.append hback⟩

theorem IsRun.grow (h : IsRun old new window run) :
    IsRun old new window (grow old new window run) := by
  have hgrown := (h.growBack hbefore hafter).growFront hbefore hafter
  dsimp only at hgrown
  rwa [← Nat.add_assoc] at hgrown

end

/-! ### Runs that follow each other -/

/--
Whether runs follow each other in a window, and their lines are the same in both texts.
-/
inductive InStep (old new : Array String) : Window → List Run → Prop where
  | nil {window : Window} (hbefore : window.beforeLow ≤ window.beforeHigh)
    (hafter : window.afterLow ≤ window.afterHigh) : InStep old new window []
  | cons {window : Window} {run : Run} {rest : List Run} (hrun : IsRun old new window run)
    (hrest : InStep old new { window with
      beforeLow := run.before + run.length
      afterLow := run.after + run.length } rest) : InStep old new window (run :: rest)

theorem InStep.low_le_high {runs : List Run} (h : InStep old new window runs) :
    window.beforeLow ≤ window.beforeHigh ∧ window.afterLow ≤ window.afterHigh := by
  cases h with
  | nil hbefore hafter => exact ⟨hbefore, hafter⟩
  | cons hrun _ =>
    obtain ⟨hlow, hhigh, hlow', hhigh', _⟩ := hrun
    omega

/-- Runs still follow each other in a window that begins earlier. -/
theorem InStep.lower {before after : Nat} {runs : List Run} (h : InStep old new window runs)
    (hbefore : before ≤ window.beforeLow) (hafter : after ≤ window.afterLow) :
    InStep old new { window with beforeLow := before, afterLow := after } runs := by
  obtain ⟨hhigh, hhigh'⟩ := h.low_le_high
  cases h with
  | nil => exact .nil (Nat.le_trans hbefore hhigh) (Nat.le_trans hafter hhigh')
  | cons hrun hrest =>
    refine .cons ?_ hrest
    exact { hrun with
      beforeLow_le := Nat.le_trans hbefore hrun.beforeLow_le
      afterLow_le := Nat.le_trans hafter hrun.afterLow_le }

/-- Runs in a window and runs in one right behind it follow each other in both together. -/
theorem InStep.append {before after : Nat} {front back : List Run}
    (hfront : InStep old new window front)
    (hback : InStep old new ⟨window.beforeHigh, before, window.afterHigh, after⟩ back) :
    InStep old new ⟨window.beforeLow, before, window.afterLow, after⟩ (front ++ back) := by
  obtain ⟨hbefore, hafter⟩ := hback.low_le_high
  induction hfront with
  | nil hlow hlow' => exact hback.lower hlow hlow'
  | cons hrun hrest ih =>
    refine .cons ?_ (ih hback hbefore hafter)
    exact { hrun with
      le_beforeHigh := Nat.le_trans hrun.le_beforeHigh hbefore
      le_afterHigh := Nat.le_trans hrun.le_afterHigh hafter }

/-- Runs with those that touch made one still follow each other. -/
theorem InStep.joined {runs : List Run} (h : InStep old new window runs) :
    InStep old new window (joined runs) := by
  induction h with
  | nil hbefore hafter => exact .nil hbefore hafter
  | @cons window run rest hrun hrest ih =>
    rw [Diff.joined]
    split
    . next hnone =>
      rw [hnone] at ih
      exact .cons hrun ih
    . next next others hjoined =>
      rw [hjoined] at ih
      split
      . next htouch =>
        cases ih with
        | cons hnext hothers =>
          obtain ⟨hbefore, hafter⟩ := htouch
          have hsame : SameLines old new run.before run.after (run.length + next.length) :=
            hrun.sameLines.append (by rw [hbefore, hafter]; exact hnext.sameLines)
          have hhigh := hnext.le_beforeHigh
          have hhigh' := hnext.le_afterHigh
          rw [← hbefore, Nat.add_assoc] at hothers hhigh
          rw [← hafter, Nat.add_assoc] at hothers hhigh'
          exact .cons ⟨hrun.beforeLow_le, hhigh, hrun.afterLow_le, hhigh', hsame⟩ hothers
      . exact .cons hrun ih

theorem runsWithin_inStep (hbefore : window.beforeHigh ≤ old.size)
    (hafter : window.afterHigh ≤ new.size) (hlow : window.beforeLow ≤ window.beforeHigh)
    (hlow' : window.afterLow ≤ window.afterHigh) :
    InStep old new window (runsWithin old new (anchors old new) window) := by
  induction window using runsWithin.induct old new (anchors old new) with
  | case1 window run h front back ihfront ihback =>
    have hrun : IsRun old new window run :=
      (isRun_longestAnchored hlow hlow').grow hbefore hafter
    rw [runsWithin, dif_pos h]
    obtain ⟨hbeforeLow, hbeforeHigh, hafterLow, hafterHigh, hsame⟩ := hrun
    have hfront := ihfront (by dsimp only [front]; omega) (by dsimp only [front]; omega) hbeforeLow
      hafterLow
    have hback := ihback hbefore hafter hbeforeHigh hafterHigh
    refine hfront.append (.cons ?_ hback)
    exact ⟨Nat.le_refl _, hbeforeHigh, Nat.le_refl _, hafterHigh, hsame⟩
  | case2 window run h =>
    rw [runsWithin, dif_neg h]
    exact .nil hlow hlow'

theorem runs_inStep (old new : Array String) :
    InStep old new ⟨0, old.size, 0, new.size⟩ (runs old new) :=
  (runsWithin_inStep (Nat.le_refl _) (Nat.le_refl _) (Nat.zero_le _) (Nat.zero_le _)).joined

/-! ### Parts that are the same -/

/--
Whether the lines of a window are the same in both texts.
-/
def IsSame (old new : Array String) (window : Window) : Prop :=
  ∃ count, window.beforeHigh = window.beforeLow + count ∧
    window.afterHigh = window.afterLow + count ∧
    SameLines old new window.beforeLow window.afterLow count

theorem isSame_empty (before after : Nat) : IsSame old new ⟨before, before, after, after⟩ :=
  ⟨0, rfl, rfl, fun _ h => absurd h (Nat.not_lt_zero _)⟩

theorem IsSame.append {before after : Nat} (h : IsSame old new window)
    (hbehind : IsSame old new ⟨window.beforeHigh, before, window.afterHigh, after⟩) :
    IsSame old new ⟨window.beforeLow, before, window.afterLow, after⟩ := by
  obtain ⟨count, hbefore, hafter, hsame⟩ := h
  obtain ⟨more, hbefore', hafter', hmore⟩ := hbehind
  dsimp only at hbefore' hafter' hmore
  rw [hbefore, Nat.add_assoc] at hbefore'
  rw [hafter, Nat.add_assoc] at hafter'
  rw [hbefore, hafter] at hmore
  exact ⟨count + more, hbefore', hafter', hsame.append hmore⟩

/-- Lines between two places of a part that is the same are the same. -/
theorem SameLines.part {before after count low high : Nat} (h : SameLines old new before after count)
    (hlow : low ≤ high) (hhigh : high ≤ count) :
    IsSame old new ⟨before + low, before + high, after + low, after + high⟩ := by
  refine ⟨high - low, by dsimp only; omega, by dsimp only; omega, ?_⟩
  intro offset hoffset
  rw [Nat.add_assoc, Nat.add_assoc]
  exact h (low + offset) (by omega)

/-! ### Stretches -/

/--
Whether a stretch is one of two texts: common lines are the same in both.
-/
structure Segment.Fits (old new : Array String) (segment : Segment) : Prop where
  before_le : segment.window.beforeLow ≤ segment.window.beforeHigh
  after_le : segment.window.afterLow ≤ segment.window.afterHigh
  isSame : segment.isCommon = true → IsSame old new segment.window

/--
Whether stretches follow each other without gaps from the beginning of a window to its end.
-/
inductive Covers (old new : Array String) : Window → List Segment → Prop where
  | nil (before after : Nat) : Covers old new ⟨before, before, after, after⟩ []
  | cons {window : Window} {segment : Segment} {rest : List Segment}
    (hbefore : segment.window.beforeLow = window.beforeLow)
    (hafter : segment.window.afterLow = window.afterLow) (hfits : segment.Fits old new)
    (hrest : Covers old new { window with
      beforeLow := segment.window.beforeHigh
      afterLow := segment.window.afterHigh } rest) : Covers old new window (segment :: rest)

theorem Covers.single {segment : Segment} (h : segment.Fits old new) :
    Covers old new segment.window [segment] :=
  .cons rfl rfl h (.nil _ _)

theorem Covers.append {before after : Nat} {front back : List Segment}
    (hfront : Covers old new window front)
    (hback : Covers old new ⟨window.beforeHigh, before, window.afterHigh, after⟩ back) :
    Covers old new ⟨window.beforeLow, before, window.afterLow, after⟩ (front ++ back) := by
  induction hfront with
  | nil => exact hback
  | cons hbefore hafter hfits _ ih => exact .cons hbefore hafter hfits (ih hback)

theorem Covers.concat {segments : List Segment} {segment : Segment}
    (h : Covers old new window segments)
    (hbefore : segment.window.beforeLow = window.beforeHigh)
    (hafter : segment.window.afterLow = window.afterHigh) (hfits : segment.Fits old new) :
    Covers old new
      ⟨window.beforeLow, segment.window.beforeHigh, window.afterLow, segment.window.afterHigh⟩
      (segments ++ [segment]) :=
  h.append (.cons hbefore hafter hfits (.nil _ _))

theorem Covers.low_le_high {segments : List Segment} (h : Covers old new window segments) :
    window.beforeLow ≤ window.beforeHigh ∧ window.afterLow ≤ window.afterHigh := by
  induction h with
  | nil => exact ⟨Nat.le_refl _, Nat.le_refl _⟩
  | cons hbefore hafter hfits _ ih =>
    have hle := hfits.before_le
    have hle' := hfits.after_le
    dsimp only at ih
    omega

/-- A window is the same in both texts if nothing in it has changed. -/
theorem Covers.isSame {segments : List Segment} (h : Covers old new window segments)
    (hcommon : segments.all Segment.isCommon = true) : IsSame old new window := by
  induction h with
  | nil before after => exact isSame_empty before after
  | cons hbefore hafter hfits _ ih =>
    rw [List.all_cons, Bool.and_eq_true] at hcommon
    have hsame := (hfits.isSame hcommon.1).append (ih hcommon.2)
    rwa [hbefore, hafter] at hsame

theorem covers_changed (hbefore : window.beforeLow ≤ window.beforeHigh)
    (hafter : window.afterLow ≤ window.afterHigh) :
    Covers old new window (Segment.changed window) := by
  unfold Segment.changed
  split
  . have hfits : Segment.Fits old new ⟨false, window⟩ := ⟨hbefore, hafter, nofun⟩
    exact .single hfits
  . next h =>
    rw [not_or, Nat.not_lt, Nat.not_lt] at h
    obtain ⟨before, high, after, high'⟩ := window
    dsimp only at hbefore hafter h
    obtain rfl := Nat.le_antisymm hbefore h.1
    obtain rfl := Nat.le_antisymm hafter h.2
    exact .nil _ _

theorem covers_ofRuns {beforeSize afterSize before after : Nat} {runs : List Run}
    (h : InStep old new ⟨before, beforeSize, after, afterSize⟩ runs) :
    Covers old new ⟨before, beforeSize, after, afterSize⟩
      (Segment.ofRuns beforeSize afterSize before after runs) := by
  induction runs generalizing before after with
  | nil =>
    obtain ⟨hbefore, hafter⟩ := h.low_le_high
    exact covers_changed hbefore hafter
  | cons run rest ih =>
    cases h with
    | cons hrun hrest =>
      have hsegment : Segment.Fits old new
          ⟨true, ⟨run.before, run.before + run.length, run.after, run.after + run.length⟩⟩ :=
        ⟨Nat.le_add_right _ _, Nat.le_add_right _ _, fun _ => ⟨_, rfl, rfl, hrun.sameLines⟩⟩
      have hfront : Covers old new ⟨before, run.before, after, run.after⟩
          (Segment.changed ⟨before, run.before, after, run.after⟩) :=
        covers_changed hrun.beforeLow_le hrun.afterLow_le
      exact hfront.append (.cons rfl rfl hsegment (ih hrest))

/-! ### Common stretches that are cut -/

section

variable {segment : Segment} {size : Nat}

theorem window_lastLines (hbefore : segment.window.beforeHigh = segment.window.beforeLow + size)
    (hafter : segment.window.afterHigh = segment.window.afterLow + size) (count : Nat) :
    (segment.lastLines count).window =
      ⟨segment.window.beforeLow + (size - count), segment.window.beforeLow + size,
        segment.window.afterLow + (size - count), segment.window.afterLow + size⟩ := by
  rw [Segment.lastLines, Window.mk.injEq]
  omega

theorem window_firstLines (hbefore : segment.window.beforeHigh = segment.window.beforeLow + size)
    (hafter : segment.window.afterHigh = segment.window.afterLow + size) (count : Nat) :
    (segment.firstLines count).window =
      ⟨segment.window.beforeLow, segment.window.beforeLow + min size count,
        segment.window.afterLow, segment.window.afterLow + min size count⟩ := by
  rw [Segment.firstLines, Window.mk.injEq]
  omega

theorem Segment.Fits.of_isSame (h : IsSame old new segment.window) : segment.Fits old new := by
  have ⟨_, hbefore, hafter, _⟩ := h
  exact ⟨by omega, by omega, fun _ => h⟩

/-- The last lines of a common stretch reach to its end, and the lines in front of them are the same. -/
theorem isSame_lastLines (h : IsSame old new segment.window) (count : Nat) :
    let last := (segment.lastLines count).window
    IsSame old new last ∧ last.beforeHigh = segment.window.beforeHigh ∧
      last.afterHigh = segment.window.afterHigh ∧
      IsSame old new
        ⟨segment.window.beforeLow, last.beforeLow, segment.window.afterLow, last.afterLow⟩ := by
  obtain ⟨size, hbefore, hafter, hsame⟩ := h
  rw [window_lastLines hbefore hafter]
  exact ⟨hsame.part (Nat.sub_le size count) (Nat.le_refl _), hbefore.symm, hafter.symm,
    hsame.part (Nat.zero_le _) (Nat.sub_le size count)⟩

/-- The first lines of a common stretch begin where it does, and the lines behind them are the same. -/
theorem isSame_firstLines (h : IsSame old new segment.window) (count : Nat) :
    let first := (segment.firstLines count).window
    IsSame old new first ∧ first.beforeLow = segment.window.beforeLow ∧
      first.afterLow = segment.window.afterLow ∧
      IsSame old new
        ⟨first.beforeHigh, segment.window.beforeHigh, first.afterHigh, segment.window.afterHigh⟩ := by
  obtain ⟨size, hbefore, hafter, hsame⟩ := h
  rw [window_firstLines hbefore hafter, hbefore, hafter]
  exact ⟨hsame.part (Nat.zero_le _) (Nat.min_le_left size count), rfl, rfl,
    hsame.part (Nat.min_le_left size count) (Nat.le_refl _)⟩

/-- The lines between the first and the last ones of a long common stretch are the same. -/
theorem isSame_between (h : IsSame old new segment.window) {count : Nat}
    (hlong : 2 * count < segment.size) :
    let first := (segment.firstLines count).window
    let last := (segment.lastLines count).window
    IsSame old new ⟨first.beforeHigh, last.beforeLow, first.afterHigh, last.afterLow⟩ := by
  obtain ⟨size, hbefore, hafter, hsame⟩ := h
  rw [Segment.size] at hlong
  rw [window_firstLines hbefore hafter, window_lastLines hbefore hafter]
  exact hsame.part (by omega) (Nat.sub_le size count)

end

/-- Common lines in front of the first change can be left away. -/
theorem covers_onFirst (context : Nat) {segments : List Segment} (h : Covers old new window segments) :
    ∃ before after, IsSame old new ⟨window.beforeLow, before, window.afterLow, after⟩ ∧
      Covers old new ⟨before, window.beforeHigh, after, window.afterHigh⟩
        (trimmed.onFirst context segments) := by
  cases h with
  | nil before after => exact ⟨before, after, isSame_empty before after, .nil _ _⟩
  | @cons window segment rest hbefore hafter hfits hrest =>
    rw [trimmed.onFirst]
    split
    . next hcommon =>
      obtain ⟨hlast, hhigh, hhigh', hfront⟩ := isSame_lastLines (hfits.isSame hcommon) context
      rw [hbefore, hafter] at hfront
      rw [← hhigh, ← hhigh'] at hrest
      refine ⟨_, _, hfront, .cons ?_ ?_ (.of_isSame hlast) hrest⟩
      . rfl
      . rfl
    . exact ⟨_, _, isSame_empty _ _, .cons hbefore hafter hfits hrest⟩

/-- Common lines behind the last change can be left away. -/
theorem covers_onLast (context : Nat) {segments : List Segment} (h : Covers old new window segments) :
    ∃ before after, IsSame old new ⟨before, window.beforeHigh, after, window.afterHigh⟩ ∧
      Covers old new ⟨window.beforeLow, before, window.afterLow, after⟩
        (trimmed.onLast context segments) := by
  induction h with
  | nil before after => exact ⟨before, after, isSame_empty before after, .nil _ _⟩
  | @cons window segment rest hbefore hafter hfits hrest ih =>
    cases rest with
    | nil =>
      rw [trimmed.onLast]
      split
      . next hcommon =>
        obtain ⟨hfirst, hlow, hlow', hback⟩ := isSame_firstLines (hfits.isSame hcommon) context
        have hbehind := hback.append (hrest.isSame rfl)
        refine ⟨_, _, hbehind, .cons (hlow.trans hbefore) (hlow'.trans hafter) (.of_isSame hfirst) ?_⟩
        exact .nil _ _
      . exact ⟨_, _, isSame_empty _ _, .cons hbefore hafter hfits hrest⟩
    | cons next rest =>
      obtain ⟨before, after, hbehind, hcovers⟩ := ih
      exact ⟨before, after, hbehind, .cons hbefore hafter hfits hcovers⟩

theorem covers_trimmed (context : Nat) {segments : List Segment} (h : Covers old new window segments) :
    ∃ inner : Window,
      IsSame old new ⟨window.beforeLow, inner.beforeLow, window.afterLow, inner.afterLow⟩ ∧
      Covers old new inner (trimmed context segments) ∧
      IsSame old new ⟨inner.beforeHigh, window.beforeHigh, inner.afterHigh, window.afterHigh⟩ := by
  obtain ⟨before, after, hfront, hfirst⟩ := covers_onFirst context h
  obtain ⟨before', after', hback, hlast⟩ := covers_onLast context hfirst
  exact ⟨_, hfront, hlast, hback⟩

/-! ### Hunks -/

/--
Whether hunks cover parts of a window that follow each other, and the texts are the same in front of
them, between them and behind them.
-/
inductive Apart (old new : Array String) : Window → List Hunk → Prop where
  | nil {window : Window} (h : IsSame old new window) : Apart old new window []
  | cons {window inner : Window} {hunk : Hunk} {rest : List Hunk}
    (hhunk : Covers old new inner hunk) (hne : hunk ≠ [])
    (hfront : IsSame old new
      ⟨window.beforeLow, inner.beforeLow, window.afterLow, inner.afterLow⟩)
    (hrest : Apart old new
      ⟨inner.beforeHigh, window.beforeHigh, inner.afterHigh, window.afterHigh⟩ rest) :
    Apart old new window (hunk :: rest)

/--
The hunks of some stretches are apart, given what the hunk under way covers and that the texts are the
same in front of it and behind all stretches.
-/
theorem apart_hunksFrom (context : Nat) {inner : Window} {before after : Nat} {hunk : Hunk}
    {segments : List Segment}
    (hhunk : Covers old new inner hunk)
    (hfront : IsSame old new ⟨window.beforeLow, inner.beforeLow, window.afterLow, inner.afterLow⟩)
    (hsegments : Covers old new ⟨inner.beforeHigh, before, inner.afterHigh, after⟩ segments)
    (hback : IsSame old new ⟨before, window.beforeHigh, after, window.afterHigh⟩) :
    Apart old new window (hunksFrom context hunk segments) := by
  induction segments generalizing window inner hunk with
  | nil =>
    cases hsegments
    rw [hunksFrom]
    split
    . next hcommon =>
      exact .nil ((hfront.append (hhunk.isSame hcommon)).append hback)
    . next hchanged =>
      refine .cons hhunk ?_ hfront (.nil hback)
      rintro rfl
      exact hchanged rfl
  | cons segment rest ih =>
    cases hsegments with
    | cons hbefore hafter hfits hrest =>
      rw [hunksFrom]
      split
      . next hlong =>
        have hsame := hfits.isSame hlong.1
        obtain ⟨hfirst, hlow, hlow', _⟩ := isSame_firstLines hsame context
        obtain ⟨hlast, hhigh, hhigh', _⟩ := isSame_lastLines hsame context
        have hclosed := hhunk.concat (hlow.trans hbefore) (hlow'.trans hafter) (.of_isSame hfirst)
        rw [← hhigh, ← hhigh'] at hrest
        have hopen := Covers.single (Segment.Fits.of_isSame hlast)
        -- The hunk under way ends here, and the next one begins with the last lines of the stretch.
        refine .cons hclosed (by simp) hfront ?_
        exact ih hopen (isSame_between hsame hlong.2) hrest hback
      . exact ih (hhunk.concat hbefore hafter hfits) hfront hrest hback

theorem apart_hunks (old new : Array String) (context : Nat) :
    Apart old new ⟨0, old.size, 0, new.size⟩ (hunks old new context) := by
  obtain ⟨inner, hfront, hcovers, hback⟩ := covers_trimmed context (covers_ofRuns (runs_inStep old new))
  have hnone : Covers old new
      ⟨inner.beforeLow, inner.beforeLow, inner.afterLow, inner.afterLow⟩ [] := .nil _ _
  exact apart_hunksFrom context hnone hfront hcovers hback

end ThreadLint.Diff
