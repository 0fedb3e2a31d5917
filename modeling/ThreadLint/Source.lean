import ThreadLint.Span
import ThreadLint.Text.Segment

/-!
This module contains the text of a file and the table of its lines, which turns offsets into lines
and columns. Offsets and columns count code points.
-/

namespace ThreadLint

/--
The contents of a file and the path under which findings name it.
-/
structure Source where
  chars : List Char
  path : String
  deriving DecidableEq, Repr, Inhabited

namespace Source

/--
The path of a text that is in no file.
-/
def memoryPath : String :=
  "<memory>"

/--
A text with the path it came from. A text without one, or with an empty one, is in memory.
-/
def ofString (text : String) (path : Option String) : Source where
  chars := text.toList
  path := match path with
    | some path => if path.isEmpty then memoryPath else path
    | none => memoryPath

/--
The text as a string.
-/
def text (source : Source) : String :=
  String.ofList source.chars

/--
The number of characters.
-/
def length (source : Source) : Nat :=
  source.chars.length

/--
The offsets at which lines begin, in ascending order: the start of the text, and every offset behind
a line feed.
-/
def lineStarts (source : Source) : Array Nat :=
  (0 :: go 0 source.chars).toArray
where
  go (offset : Nat) : List Char → List Nat
    | [] => []
    | c :: rest => if c == '\n' then (offset + 1) :: go (offset + 1) rest else go (offset + 1) rest

/--
The number of lines. A line feed at the very end begins one more line.
-/
def lineCount (source : Source) : Nat :=
  source.lineStarts.size

/--
How many of the numbers, which ascend, are at most `bound`: a binary search.
-/
def countAtMost (starts : Array Nat) (bound : Nat) : Nat :=
  go 0 starts.size
where
  /-- The numbers below `low` are at most `bound`, and those from `high` on are not. -/
  go (low high : Nat) : Nat :=
    if low < high then
      let middle := (low + high) / 2
      if starts.getD middle 0 ≤ bound then go (middle + 1) high else go low middle
    else low
  termination_by high - low

/--
The offset in the text that is nearest to a number.
-/
def clamp (source : Source) (offset : Int) : Nat :=
  min offset.toNat source.length

/--
The offset at which the line of an offset begins.
-/
def lineStart (source : Source) (offset : Int) : Nat :=
  let starts := source.lineStarts
  starts.getD (countAtMost starts (source.clamp offset) - 1) 0

/--
The line and column of an offset. An offset outside the text counts as the nearest one inside.
-/
def position (source : Source) (offset : Int) : Position :=
  let starts := source.lineStarts
  let inside := source.clamp offset
  let line := countAtMost starts inside
  ⟨line, inside - starts.getD (line - 1) 0 + 1⟩

/--
The blanks and tabs at the beginning of the line of an offset.
-/
def indentationAt (source : Source) (offset : Int) : String :=
  String.ofList
    ((source.chars.drop (source.lineStart offset)).takeWhile fun c => c == ' ' || c == '\t')

/--
The span between two offsets.
-/
def span (source : Source) (start stop : Int) : Except Fault Span :=
  Span.ofBounds start stop (source.position start) (source.position stop)

/--
The span of an extent.
-/
def spanOf (source : Source) (extent : Extent) : Except Fault Span :=
  source.span extent.start extent.stop

/--
The text of an extent.
-/
def slice (source : Source) (extent : Extent) : String :=
  Text.slice source.chars extent.start extent.stop

end Source

end ThreadLint
