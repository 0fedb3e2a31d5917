import ThreadLint.Text.Segment

/-!
This module contains the difference between two texts: the runs of lines that they have in common, the
hunks of changed lines with some common lines around them, and the unified form in which these are
shown.
-/

namespace ThreadLint.Diff

/-! ### Runs of common lines -/

/--
Consecutive lines that two texts have in common: where they begin in the one and in the other, and
how many there are.
-/
structure Run where
  before : Nat
  after : Nat
  length : Nat
  deriving DecidableEq, Repr, Inhabited

/--
Ranges of lines of two texts. The upper ends do not belong to the ranges.
-/
structure Window where
  beforeLow : Nat
  beforeHigh : Nat
  afterLow : Nat
  afterHigh : Nat
  deriving DecidableEq, Repr, Inhabited

/--
The size from which on frequent lines are left out when runs are looked for.
-/
def largeSize : Nat :=
  200

/--
Whether a line occurs so often in a large text that no run is looked for at it: more than once in
every hundred lines.
-/
def isFrequent (after : Array String) (line : String) : Bool :=
  decide (largeSize ≤ after.size) && decide (after.size / 100 + 1 < after.count line)

/--
For each line of the one text the places in the other at which a run with it is looked for, in
ascending order.
-/
def anchors (before after : Array String) : Array (List Nat) :=
  before.map fun line =>
    if isFrequent after line then []
    else (List.range after.size).filter fun place => after[place]? == some line

/--
The lengths of the runs that end at one line of the one text, by the places in the other where they
end, given those for the line in front.
-/
def nextLengths (window : Window) (lengths : List (Nat × Nat)) (places : List Nat) :
    List (Nat × Nat) :=
  (places.filter isInside).map fun place =>
    match place with
    | 0 => (0, 1)
    | place + 1 => (place + 1, (lengths.lookup place).getD 0 + 1)
where
  isInside (place : Nat) : Bool :=
    decide (window.afterLow ≤ place) && decide (place < window.afterHigh)

/--
The longer one of a run and the runs that end at a line. Of runs of one length the first one counts.
-/
def longer (line : Nat) (best : Run) (lengths : List (Nat × Nat)) : Run :=
  lengths.foldl (fun best (place, length) =>
    if best.length < length then ⟨line + 1 - length, place + 1 - length, length⟩ else best) best

/--
The first longest run of lines with anchors in a window.
-/
def longestAnchored (anchors : Array (List Nat)) (window : Window) : Run :=
  let lines := List.range' window.beforeLow (window.beforeHigh - window.beforeLow)
  (lines.foldl (fun (best, lengths) line =>
    let lengths := nextLengths window lengths (anchors.getD line [])
    (longer line best lengths, lengths))
    ((⟨window.beforeLow, window.afterLow, 0⟩ : Run), ([] : List (Nat × Nat)))).1

/--
How many items two lists have in common at their beginning.
-/
def commonLength {α : Type} [BEq α] : List α → List α → Nat
  | a :: as, b :: bs => if a == b then commonLength as bs + 1 else 0
  | _, _ => 0

/--
The lines of a range.
-/
def slice (lines : Array String) (low high : Nat) : List String :=
  (lines.extract low high).toList

/--
A run with the equal lines around it inside a window.
-/
def grow (before after : Array String) (window : Window) (run : Run) : Run :=
  let front := commonLength (slice before window.beforeLow run.before).reverse
    (slice after window.afterLow run.after).reverse
  let back := commonLength (slice before (run.before + run.length) window.beforeHigh)
    (slice after (run.after + run.length) window.afterHigh)
  ⟨run.before - front, run.after - front, front + run.length + back⟩

/--
The common runs in a window, in ascending order.
-/
def runsWithin (before after : Array String) (anchors : Array (List Nat)) (window : Window) :
    List Run :=
  let run := grow before after window (longestAnchored anchors window)
  if _h : 0 < run.length ∧ window.beforeLow ≤ run.before ∧
      run.before + run.length ≤ window.beforeHigh then
    let front := { window with beforeHigh := run.before, afterHigh := run.after }
    let back := { window with
      beforeLow := run.before + run.length
      afterLow := run.after + run.length }
    runsWithin before after anchors front ++ run :: runsWithin before after anchors back
  else []
termination_by window.beforeHigh - window.beforeLow
decreasing_by all_goals subst run; omega

/--
The runs with neighbours that touch in both texts made one.
-/
def joined : List Run → List Run
  | [] => []
  | run :: rest =>
    match joined rest with
    | [] => [run]
    | next :: others =>
      if run.before + run.length = next.before ∧ run.after + run.length = next.after then
        ⟨run.before, run.after, run.length + next.length⟩ :: others
      else run :: next :: others

/--
The common runs of two texts, in ascending order.
-/
def runs (before after : Array String) : List Run :=
  joined (runsWithin before after (anchors before after) ⟨0, before.size, 0, after.size⟩)

/-! ### Hunks -/

/--
A stretch of two texts that is the same in both, or that is taken out of the one and put into the
other.
-/
structure Segment where
  isCommon : Bool
  window : Window
  deriving DecidableEq, Repr, Inhabited

/--
Stretches that follow each other in both texts.
-/
abbrev Hunk := List Segment

namespace Segment

/--
The changed stretch of a window, unless the window is empty.
-/
def changed (window : Window) : List Segment :=
  if window.beforeLow < window.beforeHigh ∨ window.afterLow < window.afterHigh then
    [⟨false, window⟩]
  else []

/--
The stretches from some line of each text on, given the runs that are left and the sizes of the
texts.
-/
def ofRuns (beforeSize afterSize before after : Nat) : List Run → List Segment
  | [] => changed ⟨before, beforeSize, after, afterSize⟩
  | run :: rest =>
    let beforeStop := run.before + run.length
    let afterStop := run.after + run.length
    changed ⟨before, run.before, after, run.after⟩ ++
      ⟨true, ⟨run.before, beforeStop, run.after, afterStop⟩⟩ ::
        ofRuns beforeSize afterSize beforeStop afterStop rest

/--
The last lines of a common stretch, at most so many.
-/
def lastLines (segment : Segment) (count : Nat) : Segment :=
  let window := segment.window
  { segment with window := { window with
      beforeLow := max window.beforeLow (window.beforeHigh - count)
      afterLow := max window.afterLow (window.afterHigh - count) } }

/--
The first lines of a common stretch, at most so many.
-/
def firstLines (segment : Segment) (count : Nat) : Segment :=
  let window := segment.window
  { segment with window := { window with
      beforeHigh := min window.beforeHigh (window.beforeLow + count)
      afterHigh := min window.afterHigh (window.afterLow + count) } }

/--
The number of lines of a stretch in the first text.
-/
def size (segment : Segment) : Nat :=
  segment.window.beforeHigh - segment.window.beforeLow

end Segment

/--
The stretches with those at the two ends cut down to so many common lines.
-/
def trimmed (context : Nat) (segments : List Segment) : List Segment :=
  onLast (onFirst segments)
where
  onFirst : List Segment → List Segment
    | [] => []
    | first :: rest => (if first.isCommon then first.lastLines context else first) :: rest
  onLast : List Segment → List Segment
    | [] => []
    | [last] => [if last.isCommon then last.firstLines context else last]
    | segment :: rest => segment :: onLast rest

/--
The hunks of some stretches, given the one under way. A hunk ends inside a common stretch that is
longer than the lines around two hunks.
-/
def hunksFrom (context : Nat) (hunk : Hunk) : List Segment → List Hunk
  | [] => if hunk.all Segment.isCommon then [] else [hunk]
  | segment :: rest =>
    if segment.isCommon ∧ 2 * context < segment.size then
      (hunk ++ [segment.firstLines context]) :: hunksFrom context [segment.lastLines context] rest
    else hunksFrom context (hunk ++ [segment]) rest

/--
The hunks of the difference between two texts, each with so many common lines around it.
-/
def hunks (before after : Array String) (context : Nat) : List Hunk :=
  hunksFrom context []
    (trimmed context (Segment.ofRuns before.size after.size 0 0 (runs before after)))

/-! ### The unified form -/

/--
The number of common lines around a hunk, if nothing else is asked for.
-/
def defaultContext : Nat :=
  3

/--
A range of lines as the head of a hunk shows it: its first line, counted from one, and its size. One
line needs no size, and an empty range is named after the line in front.
-/
def rangeText (low high : Nat) : String :=
  let size := high - low
  if size = 1 then toString (low + 1)
  else if size = 0 then toString low ++ "," ++ toString size
  else toString (low + 1) ++ "," ++ toString size

/--
The head of a hunk.
-/
def hunkHead (hunk : Hunk) : String :=
  match hunk.head?, hunk.getLast? with
  | some first, some last =>
    "@@ -" ++ rangeText first.window.beforeLow last.window.beforeHigh ++ " +" ++
      rangeText first.window.afterLow last.window.afterHigh ++ " @@\n"
  | _, _ => ""

/--
Lines with a mark in front of each.
-/
def marked (mark : String) (lines : List String) : List String :=
  lines.map (mark ++ ·)

/--
The lines of a stretch: common ones once, changed ones as they were and as they are.
-/
def segmentLines (before after : Array String) (segment : Segment) : List String :=
  let window := segment.window
  let old := slice before window.beforeLow window.beforeHigh
  if segment.isCommon then marked " " old
  else marked "-" old ++ marked "+" (slice after window.afterLow window.afterHigh)

/--
A line with a line feed at its end.
-/
def terminated (line : String) : String :=
  if Text.endsWith line "\n" then line else line ++ "\n"

/--
The difference between two texts in unified form, with so many common lines around every hunk. There
is none between equal texts.
-/
def unified (path before after : String) (context : Nat) : String :=
  if before = after then ""
  else
    let old := (Text.lines before).toArray
    let new := (Text.lines after).toArray
    let lines := (hunks old new context).flatMap fun hunk =>
      hunkHead hunk :: hunk.flatMap (segmentLines old new)
    let head := if lines.isEmpty then [] else ["--- a/" ++ path ++ "\n", "+++ b/" ++ path ++ "\n"]
    String.join ((head ++ lines).map terminated)

end ThreadLint.Diff
