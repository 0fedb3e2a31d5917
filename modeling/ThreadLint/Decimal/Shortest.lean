/-!
This module contains the shortest decimal digits of a floating-point number: the fewest digits that
read back as the same number, and of those the ones nearest to it.
-/

namespace ThreadLint.Decimal

/--
A power of two.
-/
def twoTo (exponent : Nat) : Nat :=
  Nat.pow 2 exponent

/--
A power of ten.
-/
def tenTo (exponent : Nat) : Nat :=
  Nat.pow 10 exponent

/--
A positive number, as a whole number times a power of two. All numbers that round to it lie between
`low / 4` and `high / 4` times that power; the ends count if the number is even.
-/
structure Rounded where
  mantissa : Nat
  exponent : Int
  low : Nat
  high : Nat
  deriving Repr, Inhabited

namespace Rounded

/--
The number with the given bits, which has 52 bits of fraction and is neither zero nor infinite.
Below a power of two the numbers lie twice as close as above it.
-/
def ofBits (bits : Nat) : Rounded :=
  let fraction : Nat := bits % twoTo 52
  let power : Nat := bits / twoTo 52 % twoTo 11
  if power = 0 then ⟨fraction, -1074, 4 * fraction - 2, 4 * fraction + 2⟩
  else
    let mantissa := twoTo 52 + fraction
    let low := if fraction = 0 ∧ power ≠ 1 then 4 * mantissa - 1 else 4 * mantissa - 2
    ⟨mantissa, (power : Int) - 1075, low, 4 * mantissa + 2⟩

/--
Compares `a` times the power of two of a number, divided by four, with `b` times a power of ten.
-/
def compareWith (number : Rounded) (a b : Nat) (tens : Int) : Ordering :=
  let twos := number.exponent - 2
  let left := a * twoTo twos.toNat * tenTo (-tens).toNat
  let right := b * tenTo tens.toNat * twoTo (-twos).toNat
  compare left right

/--
Whether `b` times a power of ten reads back as a number.
-/
def isReadFrom (number : Rounded) (b : Nat) (tens : Int) : Bool :=
  let low := number.compareWith number.low b tens
  let high := number.compareWith number.high b tens
  let even := number.mantissa % 2 == 0
  (low == .lt || (even && low == .eq)) && (high == .gt || (even && high == .eq))

/--
The greatest power of ten that a number reaches, searched from a power that is too great downwards.
-/
def magnitude (number : Rounded) : Int :=
  go 700 310
where
  go : Nat → Int → Int
    | 0, tens => tens
    | bound + 1, tens =>
      if number.compareWith (4 * number.mantissa) 1 tens == .lt then go bound (tens - 1) else tens

/--
The whole number of times that a power of ten goes into a number.
-/
def quotient (number : Rounded) (tens : Int) : Nat :=
  number.mantissa * twoTo number.exponent.toNat * tenTo (-tens).toNat /
    (tenTo tens.toNat * twoTo (-number.exponent).toNat)

/--
The neighbour of a number on the grid of a power of ten that reads back as the number. If both do,
it is the nearer one, or the even one if they are equally near.
-/
def onGrid (number : Rounded) (tens : Int) : Option Nat :=
  let below := number.quotient tens
  let above := below + 1
  match number.isReadFrom below tens, number.isReadFrom above tens with
  | true, true =>
    match number.compareWith (8 * number.mantissa) (2 * below + 1) tens with
    | .lt => some below
    | .gt => some above
    | .eq => some (if below % 2 = 0 then below else above)
  | true, false => some below
  | false, true => some above
  | false, false => none

/--
The shortest digits of a number, and the power of ten of the last one.
-/
def shortest (number : Rounded) : Nat × Int :=
  go 17 number.magnitude
where
  /-- The grids become finer one power of ten at a time. -/
  go : Nat → Int → Nat × Int
    | 0, tens => (number.quotient tens, tens)
    | bound + 1, tens =>
      match number.onGrid tens with
      | some digits => (digits, tens)
      | none => go bound (tens - 1)

end Rounded

/--
A number without the zeros at its end, and how many these are.
-/
def stripZeros (n : Nat) : Nat × Nat :=
  if _h : n ≠ 0 ∧ n % 10 = 0 then
    let (rest, zeros) := stripZeros (n / 10)
    (rest, zeros + 1)
  else (n, 0)
termination_by n
decreasing_by omega

/--
The text of a positive number that is neither zero nor infinite. From the fourth place behind the
point up to sixteen places in front of it the digits are written out, with one place behind the
point at least; else there is one digit in front of the point, and a power of ten of two digits at
least.
-/
def positiveText (bits : Nat) : String :=
  let (digits, tens) := (Rounded.ofBits bits).shortest
  let (digits, zeros) := stripZeros digits
  let text := Nat.toDigits 10 digits
  let power : Int := tens + zeros + text.length - 1
  if -4 ≤ power ∧ power < 16 then
    if power < 0 then
      "0." ++ String.ofList (List.replicate (-power - 1).toNat '0' ++ text)
    else
      let whole := power.toNat + 1
      let front := text.take whole ++ List.replicate (whole - text.length) '0'
      let back := text.drop whole
      String.ofList front ++ "." ++ (if back.isEmpty then "0" else String.ofList back)
  else
    let back := text.drop 1
    let size := toString power.natAbs
    String.ofList (text.take 1) ++ (if back.isEmpty then "" else "." ++ String.ofList back) ++
      "e" ++ (if power < 0 then "-" else "+") ++ (if size.length < 2 then "0" ++ size else size)

/--
The text of a floating-point number.
-/
def text (x : Float) : String :=
  let bits := x.toBits.toNat
  let sign := if bits < twoTo 63 then "" else "-"
  let size := bits % twoTo 63
  if 2047 * twoTo 52 < size then "nan"
  else if size = 2047 * twoTo 52 then sign ++ "inf"
  else if size = 0 then sign ++ "0.0"
  else sign ++ positiveText size

/--
The whole part of a floating-point number, unless it is infinite or not a number.
-/
def truncate? (x : Float) : Option Int :=
  let bits := x.toBits.toNat
  let size := bits % twoTo 63
  if 2047 * twoTo 52 ≤ size then none
  else
    let number := Rounded.ofBits size
    let whole : Int :=
      (number.mantissa * twoTo number.exponent.toNat / twoTo (-number.exponent).toNat : Nat)
    some (if bits < twoTo 63 then whole else -whole)

end ThreadLint.Decimal
