import ThreadLint.Text.Blank
import ThreadLint.Text.Case
import ThreadLint.Text.Letter

/-!
This module contains how numbers are read from text: whole numbers and numbers with a point and a
power of ten. Digits may be those of any script and may be separated by single underscores.
-/

namespace ThreadLint.Decimal

/--
The floating-point number nearest to a whole number times a power of ten. Beyond a power of 400 it
is infinite or zero whatever its digits are.
-/
def nearest (digits : Nat) (tens : Int) : Float :=
  let size : Int := (Nat.toDigits 10 digits).length
  if digits = 0 ∨ size + tens < -400 then 0.0
  else if 400 < size + tens then 1.0 / 0.0
  else Float.ofScientific digits (decide (tens < 0)) tens.natAbs

/--
The greatest number of digits in base ten with which whole numbers are read and written.
-/
def digitLimit : Nat :=
  4300

/--
A text without the white space at its ends. The information separators are no white space here.
-/
def trimmed (text : String) : List Char :=
  let blank (c : Char) : Bool := Text.isBlank c && !(28 ≤ c.toNat && c.toNat ≤ 31)
  ((text.toList.dropWhile blank).reverse.dropWhile blank).reverse

/--
The sign in front of a number, as whether it is negative, and what follows it.
-/
def signOf : List Char → Bool × List Char
  | '-' :: rest => (true, rest)
  | '+' :: rest => (false, rest)
  | rest => (false, rest)

/--
A character, or the ASCII form of a decimal digit.
-/
def asciiDigit (c : Char) : Char :=
  match Text.decimalValue? c with
  | some value => Char.ofNat ('0'.toNat + value)
  | none => c

/--
The characters without single underscores between digits. There is nothing if an underscore stands
anywhere else.
-/
def plain? (cs : List Char) : Option (List Char) :=
  go false cs
where
  /-- `digit` says whether a digit stands in front. -/
  go (digit : Bool) : List Char → Option (List Char)
    | [] => some []
    | '_' :: d :: rest =>
      if digit && d.isDigit then (go true rest).map (d :: ·) else none
    | '_' :: [] => none
    | c :: rest => (go c.isDigit rest).map (c :: ·)

/--
The value of digits in base ten.
-/
def natOf (digits : List Char) : Nat :=
  digits.foldl (fun n d => 10 * n + (d.toNat - '0'.toNat)) 0

/--
Why a text is not read as a whole number.
-/
inductive IntegerProblem where
  | malformed
  | tooLong (digits : Nat)
  deriving DecidableEq, Repr, Inhabited

/--
The whole number that a text stands for. Digits that are too many are refused whatever stands behind
them.
-/
def integer (text : String) : Except IntegerProblem Int := do
  let (negative, rest) := signOf (trimmed text)
  let cs := rest.map asciiDigit
  let run := cs.takeWhile fun c => c.isDigit || c == '_'
  match plain? run with
  | none => throw .malformed
  | some digits =>
    if digitLimit < digits.length then throw (.tooLong digits.length)
    if digits.isEmpty || run.length < cs.length then throw .malformed
    let n : Int := natOf digits
    return if negative then -n else n

/--
The power of ten behind the digits of a number: nothing, or a mark with a sign and digits.
-/
def powerOf? (cs : List Char) : Option Int :=
  match cs with
  | [] => some 0
  | c :: rest =>
    if c == 'e' || c == 'E' then
      let (negative, digits) := signOf rest
      if digits.isEmpty || !digits.all Char.isDigit then none
      else
        let n : Int := natOf digits
        some (if negative then -n else n)
    else none

/--
The number that digits with a point and a power of ten stand for, without a sign. There is a digit
in front of the point or behind it.
-/
def unsigned? (cs : List Char) : Option Float := do
  let front := cs.takeWhile Char.isDigit
  let rest := cs.drop front.length
  let back := match rest with
    | '.' :: rest => rest.takeWhile Char.isDigit
    | _ => []
  let power := match rest with
    | '.' :: rest => rest.drop back.length
    | rest => rest
  if front.isEmpty && back.isEmpty then none
  else
    let tens ← powerOf? power
    return nearest (natOf (front ++ back)) (tens - back.length)

/--
The floating-point number that a text stands for: digits, or a word for an infinite number or none.
-/
def real? (text : String) : Option Float := do
  let (negative, rest) := signOf (trimmed text)
  let size ←
    match Text.lower (String.ofList rest) with
    | "inf" | "infinity" => some (1.0 / 0.0)
    | "nan" => some (0.0 / 0.0)
    | _ => (plain? (rest.map asciiDigit)).bind unsigned?
  return if negative then -size else size

end ThreadLint.Decimal
