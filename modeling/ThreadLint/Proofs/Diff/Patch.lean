import ThreadLint.Diff
import ThreadLint.Proofs.Diff.Hunk
import ThreadLint.Proofs.Text.Pieces

/-!
This module contains how a difference in unified form is read and applied to a text. Nothing in it
knows how differences are made: what is read are heads with ranges of lines and lines with marks, and
what is applied must fit the text where the heads say.
-/

namespace ThreadLint.Diff

/--
A range of lines as a head states it. Lines count from one, and an empty range is named after the line
in front of it.
-/
structure Range where
  first : Nat
  size : Nat
  deriving DecidableEq, Repr

/--
The number of lines in front of a range.
-/
def Range.offset? (range : Range) : Option Nat :=
  if range.size = 0 then some range.first
  else if range.first = 0 then none
  else some (range.first - 1)

/--
What happens to a line.
-/
inductive Change where
  | kept (line : String)
  | removed (line : String)
  | added (line : String)
  deriving DecidableEq, Repr

namespace Change

/--
How many lines of the old text a change is about.
-/
def oldSize : Change → Nat
  | kept _ => 1
  | removed _ => 1
  | added _ => 0

/--
How many lines of the new text a change is about.
-/
def newSize : Change → Nat
  | kept _ => 1
  | removed _ => 0
  | added _ => 1

/--
The change that a line with a mark in front of it stands for.
-/
def ofLine? (line : String) : Option Change :=
  match line.toList with
  | ' ' :: rest => some (kept (String.ofList rest))
  | '-' :: rest => some (removed (String.ofList rest))
  | '+' :: rest => some (added (String.ofList rest))
  | _ => none

end Change

/--
The changes in one place of a text: the range of the old text, the range that comes in its place, and
what happens to their lines.
-/
structure Part where
  before : Range
  after : Range
  changes : List Change
  deriving DecidableEq, Repr

/--
What a difference says: the names of the two texts and the parts that differ.
-/
structure Patch where
  oldName : String
  newName : String
  parts : List Part
  deriving DecidableEq, Repr

/-! ### Reading -/

/--
The range that a head states. The size of one line need not be said.
-/
def Range.ofText? (text : String) : Option Range :=
  match Text.pieces ',' text with
  | [first] => do
    return ⟨← Text.number? first, 1⟩
  | [first, size] => do
    return ⟨← Text.number? first, ← Text.number? size⟩
  | _ => none

/--
The two ranges that the head of a part states.
-/
def ranges? (line : String) : Option (Range × Range) := do
  let ranges ← Text.behindStart? "@@ -" line
  let behind ← Text.behindStart? "+" (Text.afterFirst ' ' ranges)
  if Text.afterFirst ' ' behind = "@@\n" then
    return (← Range.ofText? (Text.beforeFirst ' ' ranges), ← Range.ofText? (Text.beforeFirst ' ' behind))
  else none

/--
The changes that are left of a part and the parts behind it. The part goes on until its ranges are
used up.
-/
def partsFrom (old new : Nat) : List String → Option (List Change × List Part)
  | [] => if old = 0 ∧ new = 0 then some ([], []) else none
  | line :: rest => do
    if old = 0 ∧ new = 0 then
      let (before, after) ← ranges? line
      let (changes, parts) ← partsFrom before.size after.size rest
      return ([], ⟨before, after, changes⟩ :: parts)
    else
      let change ← Change.ofLine? line
      if old < change.oldSize ∨ new < change.newSize then none
      else
        let (changes, parts) ← partsFrom (old - change.oldSize) (new - change.newSize) rest
        return (change :: changes, parts)

/--
The difference that a text shows: two lines with names, and behind them the parts.
-/
def Patch.read? (text : String) : Option Patch := do
  match ← Text.fedLines? text with
  | old :: new :: lines =>
    let (_, parts) ← partsFrom 0 0 lines
    return {
      oldName := Text.beforeFirst '\n' (← Text.behindStart? "--- " old)
      newName := Text.beforeFirst '\n' (← Text.behindStart? "+++ " new)
      parts := parts
    }
  | _ => none

/-! ### Applying -/

/--
The lines that come of changes, and the lines behind those that are changed. Lines that are kept or
removed must be there.
-/
def applyChanges : List Change → List String → Option (List String × List String)
  | [], lines => some ([], lines)
  | .added line :: changes, lines =>
    (applyChanges changes lines).map fun (made, rest) => (line :: made, rest)
  | .kept line :: changes, present :: lines =>
    if present = line then (applyChanges changes lines).map fun (made, rest) => (line :: made, rest)
    else none
  | .removed line :: changes, present :: lines =>
    if present = line then applyChanges changes lines else none
  | _, [] => none

/--
The lines that come of parts, given how many lines of the old and of the new text are done with and
which old ones are left. Each part must stand where its ranges say, in both texts.
-/
def applyParts (before after : Nat) : List Part → List String → Option (List String)
  | [], lines => some lines
  | part :: parts, lines => do
    let start ← part.before.offset?
    let start' ← part.after.offset?
    let skipped := start - before
    if start < before ∨ lines.length < skipped ∨ start' ≠ after + skipped then none
    else
      let (made, rest) ← applyChanges part.changes (lines.drop skipped)
      let others ← applyParts (start + part.before.size) (start' + part.after.size) parts rest
      return lines.take skipped ++ (made ++ others)

/--
The text that comes of a difference to another text.
-/
def Patch.patched? (patch : Patch) (text : String) : Option String := do
  let lines ← applyParts 0 0 patch.parts (← Text.fedLines? text)
  return String.join lines

/-! ### Ranges -/

/--
The range between two places.
-/
def Range.between (low high : Nat) : Range :=
  ⟨if high - low = 0 then low else low + 1, high - low⟩

@[simp]
theorem Range.offset?_between (low high : Nat) : (between low high).offset? = some low := by
  unfold offset? between
  split
  . next h => simp_all
  . next h => simp_all

/--
The characters that end a range in a head, or the head itself.
-/
def rangeEnds : List Char :=
  [' ', '\n']

theorem avoids_rangeText (low high : Nat) : Text.avoids rangeEnds (rangeText low high) = true := by
  have hnumber (n : Nat) : Text.avoids rangeEnds (toString n) = true :=
    Text.avoids_toString (by decide) n
  have hcomma : Text.avoids rangeEnds "," = true := by decide
  unfold rangeText
  dsimp only
  split
  . exact hnumber _
  . split
    . simp only [Text.avoids_append, hnumber, hcomma, Bool.and_self]
    . simp only [Text.avoids_append, hnumber, hcomma, Bool.and_self]

theorem Range.ofText?_single (first : Nat) : ofText? (toString first) = some ⟨first, 1⟩ := by
  have hfirst : Text.avoids [','] (toString first) = true := Text.avoids_toString (by decide) first
  have hall : [toString first].all (Text.avoids [',']) = true := by
    rw [List.all_cons, hfirst]
    rfl
  have hpieces := Text.pieces_intercalate (List.cons_ne_nil _ _) hall
  rw [String.intercalate_singleton] at hpieces
  rw [ofText?, hpieces]
  simp

theorem Range.ofText?_pair (first size : Nat) :
    ofText? (toString first ++ "," ++ toString size) = some ⟨first, size⟩ := by
  have hnumber (n : Nat) : Text.avoids [','] (toString n) = true := Text.avoids_toString (by decide) n
  have hall : [toString first, toString size].all (Text.avoids [',']) = true := by
    rw [List.all_cons, List.all_cons, hnumber, hnumber]
    rfl
  have hpieces := Text.pieces_intercalate (List.cons_ne_nil _ _) hall
  have hcomma : String.singleton ',' = "," := by decide
  rw [String.intercalate_cons_cons, String.intercalate_singleton, hcomma] at hpieces
  rw [ofText?, hpieces]
  simp

theorem Range.ofText?_rangeText (low high : Nat) :
    ofText? (rangeText low high) = some (.between low high) := by
  unfold rangeText
  dsimp only
  split
  . next hone => rw [ofText?_single, between, hone, if_neg Nat.one_ne_zero]
  . split
    . next hnone => rw [ofText?_pair, between, if_pos hnone]
    . next hmany => rw [ofText?_pair, between, if_neg hmany]

theorem ranges?_head (low high low' high' : Nat) :
    ranges? ("@@ -" ++ rangeText low high ++ " +" ++ rangeText low' high' ++ " @@\n") =
      some (.between low high, .between low' high') := by
  have havoids (low high : Nat) : Text.avoids [' '] (rangeText low high) = true :=
    Text.avoids_of_subset (by decide) (avoids_rangeText low high)
  have hline : "@@ -" ++ rangeText low high ++ " +" ++ rangeText low' high' ++ " @@\n" =
      "@@ -" ++ (rangeText low high ++ (String.singleton ' ' ++ ("+" ++ (rangeText low' high' ++
        (String.singleton ' ' ++ "@@\n"))))) := by
    have hmiddle : " +" = String.singleton ' ' ++ "+" := by decide
    have hend : " @@\n" = String.singleton ' ' ++ "@@\n" := by decide
    rw [hmiddle, hend]
    simp only [String.append_assoc]
  rw [ranges?, hline, Text.behindStart?_append]
  simp only [Option.bind_eq_bind, Option.bind_some]
  rw [Text.beforeFirst_append (havoids _ _), Text.afterFirst_append (havoids _ _),
    Text.behindStart?_append, Option.bind_some, Text.afterFirst_append (havoids _ _), if_pos rfl,
    Text.beforeFirst_append (havoids _ _), Range.ofText?_rangeText, Range.ofText?_rangeText]
  rfl

/-! ### Changes -/

/--
The line for a change, with its mark in front.
-/
def Change.written : Change → String
  | kept line => " " ++ line
  | removed line => "-" ++ line
  | added line => "+" ++ line

@[simp]
theorem Change.ofLine?_written (change : Change) : ofLine? change.written = some change := by
  cases change with
  | kept line => simp [ofLine?, written]
  | removed line => simp [ofLine?, written]
  | added line => simp [ofLine?, written]

/--
How many lines of the old text changes are about.
-/
def oldCount : List Change → Nat
  | [] => 0
  | change :: changes => change.oldSize + oldCount changes

/--
How many lines of the new text changes are about.
-/
def newCount : List Change → Nat
  | [] => 0
  | change :: changes => change.newSize + newCount changes

/-- Changes are read back up to where their part, or the lines in front of it, are used up. -/
theorem partsFrom_changes (changes : List Change) (old new : Nat) (lines : List String) :
    partsFrom (oldCount changes + old) (newCount changes + new)
      (changes.map Change.written ++ lines) =
        (partsFrom old new lines).map fun (rest, parts) => (changes ++ rest, parts) := by
  induction changes with
  | nil => simp [oldCount, newCount]
  | cons change changes ih =>
    have hold : oldCount (change :: changes) + old = change.oldSize + (oldCount changes + old) := by
      rw [oldCount, Nat.add_assoc]
    have hnew : newCount (change :: changes) + new = change.newSize + (newCount changes + new) := by
      rw [newCount, Nat.add_assoc]
    have hsize : ¬ (change.oldSize = 0 ∧ change.newSize = 0) := by
      cases change with
      | kept line => simp [Change.oldSize]
      | removed line => simp [Change.oldSize]
      | added line => simp [Change.newSize]
    rw [hold, hnew, List.map_cons, List.cons_append, partsFrom, if_neg (by omega),
      Change.ofLine?_written]
    simp only [Option.bind_eq_bind, Option.bind_some]
    rw [if_neg (by omega), Nat.add_sub_cancel_left, Nat.add_sub_cancel_left, ih]
    cases partsFrom old new lines with
    | none => rfl
    | some read => rfl

/-- Changes take as many lines as they are about, and give as many. -/
theorem length_of_applyChanges {changes : List Change} {lines made rest : List String}
    (h : applyChanges changes lines = some (made, rest)) :
    lines.length = oldCount changes + rest.length ∧ made.length = newCount changes := by
  induction changes generalizing lines made with
  | nil =>
    cases h
    exact ⟨(Nat.zero_add _).symm, rfl⟩
  | cons change changes ih =>
    rw [oldCount, newCount]
    cases change with
    | added line =>
      rw [applyChanges] at h
      obtain ⟨⟨made, rest⟩, hmade, h⟩ := Option.map_eq_some_iff.mp h
      cases h
      have hlengths := ih hmade
      simp only [Change.oldSize, Change.newSize, List.length_cons]
      omega
    | kept line =>
      cases lines with
      | nil => cases h
      | cons present lines =>
        rw [applyChanges] at h
        split at h
        . obtain ⟨⟨made, rest⟩, hmade, h⟩ := Option.map_eq_some_iff.mp h
          cases h
          have hlengths := ih hmade
          simp only [Change.oldSize, Change.newSize, List.length_cons]
          omega
        . cases h
    | removed line =>
      cases lines with
      | nil => cases h
      | cons present lines =>
        rw [applyChanges] at h
        split at h
        . have hlengths := ih h
          simp only [Change.oldSize, Change.newSize, List.length_cons]
          omega
        . cases h

theorem applyChanges_kept (kept : List String) (changes : List Change) (lines : List String) :
    applyChanges (kept.map .kept ++ changes) (kept ++ lines) =
      (applyChanges changes lines).map fun (made, rest) => (kept ++ made, rest) := by
  induction kept with
  | nil => simp
  | cons line kept ih =>
    rw [List.map_cons, List.cons_append, List.cons_append, applyChanges, if_pos rfl, ih,
      Option.map_map]
    rfl

theorem applyChanges_removed (removed : List String) (changes : List Change) (lines : List String) :
    applyChanges (removed.map .removed ++ changes) (removed ++ lines) = applyChanges changes lines := by
  induction removed with
  | nil => rfl
  | cons line removed ih =>
    rw [List.map_cons, List.cons_append, List.cons_append, applyChanges, if_pos rfl, ih]

theorem applyChanges_added (added : List String) (changes : List Change) (lines : List String) :
    applyChanges (added.map .added ++ changes) lines =
      (applyChanges changes lines).map fun (made, rest) => (added ++ made, rest) := by
  induction added with
  | nil => simp
  | cons line added ih =>
    rw [List.map_cons, List.cons_append, applyChanges, ih, Option.map_map]
    rfl

end ThreadLint.Diff
