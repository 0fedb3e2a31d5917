import ThreadLint.Template

/-!
This module contains the layouts of values in messages: a width, on which side the value is padded
and with what, and how many of its characters are shown.
-/

namespace ThreadLint

/--
On which side of a value the padding goes.
-/
inductive Alignment where
  | left
  | right
  | middle
  | numeric
  deriving DecidableEq, Repr, Inhabited

/--
How a value is laid out. Without a width it is not padded, and without a limit it is shown as a
whole. The sign, the mark for negative zero, the alternate form, the separator and the type are for
numbers, except that `s` is the type of texts.
-/
structure Layout where
  fill : Char := ' '
  alignment : Option Alignment := none
  sign : Option Char := none
  negativeZero : Bool := false
  alternateForm : Bool := false
  width : Option Nat := none
  separator : Option Char := none
  limit : Option Nat := none
  type : Char := 's'
  deriving DecidableEq, Repr, Inhabited

namespace Layout

/--
The alignment that a character stands for.
-/
def alignmentOf? (c : Char) : Option Alignment :=
  match c with
  | '<' => some .left
  | '>' => some .right
  | '^' => some .middle
  | '=' => some .numeric
  | _ => none

/--
The greatest number that may stand in a template.
-/
def greatest : Nat :=
  9223372036854775807

/--
The digits at the beginning of a text as a number, if there are any, and the rest.
-/
def number? (cs : List Char) : Except TemplateProblem (Option Nat × List Char) :=
  let digits := cs.takeWhile fun c => (Text.decimalValue? c).isSome
  let value := digits.foldl (fun n c => 10 * n + (Text.decimalValue? c).getD 0) 0
  if digits.isEmpty then .ok (none, cs)
  else if greatest < value then .error .tooManyDigits
  else .ok (some value, cs.drop digits.length)

/--
Takes a character off a text if it is there.
-/
def accept (c : Char) (cs : List Char) : Bool × List Char :=
  match cs with
  | d :: rest => if d == c then (true, rest) else (false, cs)
  | [] => (false, cs)

/--
The padding character and the alignment at the beginning of a layout.
-/
def padding (cs : List Char) : Option Char × Option Alignment × List Char :=
  match cs with
  | fill :: mark :: rest =>
    match alignmentOf? mark, alignmentOf? fill with
    | some alignment, _ => (some fill, some alignment, rest)
    | none, some alignment => (none, some alignment, mark :: rest)
    | none, none => (none, none, cs)
  | [mark] =>
    match alignmentOf? mark with
    | some alignment => (none, some alignment, [])
    | none => (none, none, cs)
  | [] => (none, none, cs)

/--
The sign at the beginning of a text.
-/
def signOf (cs : List Char) : Option Char × List Char :=
  match cs with
  | c :: rest => if c == ' ' || c == '+' || c == '-' then (some c, rest) else (none, cs)
  | [] => (none, cs)

/--
The separator of thousands at the beginning of a text.
-/
def separatorOf (cs : List Char) : Except TemplateProblem (Option Char × List Char) :=
  match cs with
  | ',' :: '_' :: _ | '_' :: ',' :: _ => .error .twoSeparators
  | ',' :: rest => .ok (some ',', rest)
  | '_' :: rest => .ok (some '_', rest)
  | _ => .ok (none, cs)

/--
The number behind a point at the beginning of a text.
-/
def limitOf (cs : List Char) : Except TemplateProblem (Option Nat × List Char) :=
  match cs with
  | '.' :: rest => do
    let (limit, rest) ← number? rest
    if limit.isNone then throw .missingPrecision
    return (limit, rest)
  | _ => .ok (none, cs)

/--
The types of numbers with which a separator may stand.
-/
def separates (separator type : Char) : Bool :=
  "defgEG%F".toList.contains type || (separator == '_' && "boxX".toList.contains type)

/--
The layout that is written as some text.
-/
def ofString (text : String) : Except TemplateProblem Layout := do
  let (fill, alignment, cs) := padding text.toList
  let (sign, cs) := signOf cs
  let (negativeZero, cs) := accept 'z' cs
  let (alternateForm, cs) := accept '#' cs
  let (zero, cs) := if fill.isNone then accept '0' cs else (false, cs)
  let (width, cs) ← number? cs
  let (separator, cs) ← separatorOf cs
  let (limit, cs) ← limitOf cs
  let type ← match cs with
    | [] => pure 's'
    | [type] => pure type
    | _ => throw (.invalidLayout text)
  if let some mark := separator then
    if !separates mark type then throw (.separator mark type)
  return {
    fill := fill.getD (if zero then '0' else ' ')
    alignment := alignment
    sign := sign
    negativeZero := negativeZero
    alternateForm := alternateForm
    width := width
    separator := separator
    limit := limit
    type := type
  }

/--
A text in a layout. What is meant for numbers only is refused.
-/
def apply (layout : Layout) (value : List Char) : Except TemplateProblem (List Char) := do
  if layout.type ≠ 's' then throw (.unknownType layout.type)
  if let some sign := layout.sign then throw (if sign == ' ' then .space else .sign)
  if layout.negativeZero then throw .negativeZero
  if layout.alternateForm then throw .alternateForm
  let shown := match layout.limit with
    | some limit => value.take limit
    | none => value
  let missing := layout.width.getD 0 - shown.length
  let pad (count : Nat) : List Char := List.replicate count layout.fill
  match layout.alignment with
  | some .numeric => throw .numericAlignment
  | some .right => return pad missing ++ shown
  | some .middle => return pad (missing / 2) ++ shown ++ pad (missing - missing / 2)
  | some .left | none => return shown ++ pad missing

end Layout

end ThreadLint
