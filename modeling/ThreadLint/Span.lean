import ThreadLint.Fault

/-!
This module contains ranges of a text: plain extents, and spans that also know the lines and columns
of their two ends.
-/

namespace ThreadLint

/--
A half-open range of offsets in a text.
-/
structure Extent where
  start : Nat
  stop : Nat
  deriving DecidableEq, Repr, Inhabited

namespace Extent

/--
The number of characters in an extent.
-/
def length (extent : Extent) : Nat :=
  extent.stop - extent.start

/--
Whether an extent does not end before it starts.
-/
def isOrdered (extent : Extent) : Bool :=
  decide (extent.start ≤ extent.stop)

end Extent

/--
A half-open range of offsets, with the positions of its ends. It never ends before it starts.
-/
structure Span where
  start : Nat
  stop : Nat
  startAt : Position
  stopAt : Position
  start_le_stop : start ≤ stop
  deriving DecidableEq, Repr

namespace Span

/--
The empty span at the beginning of a text.
-/
def first : Span where
  start := 0
  stop := 0
  startAt := ⟨1, 1⟩
  stopAt := ⟨1, 1⟩
  start_le_stop := Nat.le_refl 0

instance : Inhabited Span := ⟨first⟩

/--
The span between two offsets, unless they are no range of any text.
-/
def ofBounds (start stop : Int) (startAt stopAt : Position) : Except Fault Span :=
  if h : 0 ≤ start ∧ start ≤ stop then
    .ok ⟨start.toNat, stop.toNat, startAt, stopAt, by omega⟩
  else
    .error (.promise (.badSpan start stop) none)

/--
The offsets of a span.
-/
def extent (span : Span) : Extent :=
  ⟨span.start, span.stop⟩

/--
The number of characters in a span.
-/
def length (span : Span) : Nat :=
  span.stop - span.start

/--
Whether a span holds all of another.
-/
def contains (span other : Span) : Bool :=
  decide (span.start ≤ other.start) && decide (other.stop ≤ span.stop)

/--
Whether two spans have a character in common, where an empty span counts as lying between two
characters.
-/
def overlaps (span other : Span) : Bool :=
  decide (span.start < other.stop) && decide (other.start < span.stop)

end Span

end ThreadLint
