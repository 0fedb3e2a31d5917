import ThreadLint.Decimal.Numeral
import ThreadLint.Settings.Value
import ThreadLint.Toml.Reader

/-!
This module contains how numbers, days and times of day are read in TOML. Single underscores may stand
between the digits of a number.
-/

namespace ThreadLint.Toml

/-! ### Numbers -/

/--
The digits at the beginning of a text, with the underscores between them. `behindDigit` says whether
a digit stands in front.
-/
def digitsWith (isDigit : Char → Bool) (behindDigit : Bool) : List Char → List Char
  | [] => []
  | '_' :: c :: rest =>
    if behindDigit && isDigit c then '_' :: c :: digitsWith isDigit true rest else []
  | c :: rest => if isDigit c then c :: digitsWith isDigit true rest else []

/--
The number whose digits are ahead behind a zero and a letter for their base, and how many characters
they take.
-/
def inBase? (cs : List Char) : Option (Value × Nat) :=
  match cs with
  | '0' :: 'x' :: rest => valued 16 (digitsWith (fun c => (hexValue? c).isSome) false rest)
  | '0' :: 'o' :: rest => valued 8 (digitsWith (fun c => '0' ≤ c && c ≤ '7') false rest)
  | '0' :: 'b' :: rest => valued 2 (digitsWith (fun c => c == '0' || c == '1') false rest)
  | _ => none
where
  valued (base : Nat) (digits : List Char) : Option (Value × Nat) :=
    let n := (digits.filterMap hexValue?).foldl (fun n digit => base * n + digit) 0
    if digits.isEmpty then none else some (.int n, digits.length + 2)

/--
The sign at the beginning of a text.
-/
def signAt (cs : List Char) : List Char :=
  match cs with
  | '+' :: _ => ['+']
  | '-' :: _ => ['-']
  | _ => []

/--
The digits of a whole number at the beginning of a text. More than one begin with another digit than
zero.
-/
def wholeAt (cs : List Char) : List Char :=
  match cs with
  | '0' :: _ => ['0']
  | cs => digitsWith Char.isDigit false cs

/--
A point with digits at the beginning of a text.
-/
def fractionAt (cs : List Char) : List Char :=
  match cs with
  | '.' :: rest =>
    match digitsWith Char.isDigit false rest with
    | [] => []
    | digits => '.' :: digits
  | _ => []

/--
A mark for a power of ten with its digits at the beginning of a text.
-/
def powerAt (cs : List Char) : List Char :=
  match cs with
  | c :: rest =>
    if c == 'e' || c == 'E' then
      let sign := signAt rest
      match digitsWith Char.isDigit false (rest.drop sign.length) with
      | [] => []
      | digits => c :: sign ++ digits
    else []
  | [] => []

/--
The number in base ten that is ahead, and how many characters it takes. A whole number may have too
many digits.
-/
def decimal? (cs : List Char) : Except Problem (Option (Value × Nat)) :=
  let sign := signAt cs
  let whole := wholeAt (cs.drop sign.length)
  let front := sign ++ whole
  let fraction := fractionAt (cs.drop front.length)
  let power := powerAt (cs.drop (front.length + fraction.length))
  let all := front ++ fraction ++ power
  let text := String.ofList all
  if whole.isEmpty then .ok none
  else if fraction.isEmpty && power.isEmpty then
    match Decimal.integer text with
    | .ok n => .ok (some (.int n, all.length))
    | .error .malformed => .ok none
    | .error (.tooLong digits) => .error (.tooLong digits)
  else .ok ((Decimal.real? text).map fun x => (.real x, all.length))

/--
The word for an infinite number or none that is ahead, and how many characters it takes.
-/
def special? (cs : List Char) : Option (Value × Nat) :=
  let sign := signAt cs
  let word := (cs.drop sign.length).take 3
  if word == "inf".toList || word == "nan".toList then
    (Decimal.real? (String.ofList (sign ++ word))).map fun x => (.real x, sign.length + 3)
  else none

/--
A number.
-/
def number : Reader Value := do
  let cs ← get
  let inBaseTen ← if (inBase? cs).isSome then pure none else liftM (decimal? cs)
  Reader.measured fun cs => (inBase? cs).or (inBaseTen.or (special? cs))

/-! ### Days and times of day -/

/--
The number that so many digits at the beginning of a text stand for, and the rest.
-/
def digitsAt? (count : Nat) (cs : List Char) : Option (Nat × List Char) :=
  let digits := cs.take count
  if digits.length = count ∧ digits.all Char.isDigit then
    some (digits.foldl (fun n d => 10 * n + (d.toNat - 48)) 0, cs.drop count)
  else none

/--
The text behind a character, if it begins with that.
-/
def behindChar? (c : Char) : List Char → Option (List Char)
  | [] => none
  | d :: rest => if d == c then some rest else none

/--
The fraction of a second at the beginning of a text, in microseconds, and the rest. Digits behind
the sixth are passed over.
-/
def fractionOfSecond (cs : List Char) : Nat × List Char :=
  match cs with
  | '.' :: rest =>
    let digits := rest.takeWhile Char.isDigit
    if digits.isEmpty then (0, cs)
    else
      let six := (digits ++ List.replicate 6 '0').take 6
      (six.foldl (fun n d => 10 * n + (d.toNat - 48)) 0, rest.drop digits.length)
  | _ => (0, cs)

/--
The time of day at the beginning of a text, and the rest.
-/
def timeAt? (cs : List Char) : Option (ClockTime × List Char) := do
  let (hour, cs) ← digitsAt? 2 cs
  let (minute, cs) ← digitsAt? 2 (← behindChar? ':' cs)
  let (second, cs) ← digitsAt? 2 (← behindChar? ':' cs)
  let (microsecond, cs) := fractionOfSecond cs
  if hour < 24 ∧ minute < 60 ∧ second < 60 then
    return (⟨hour, minute, second, microsecond⟩, cs)
  else none

/--
The offset from universal time at the beginning of a text, in minutes, and the rest.
-/
def offsetAt? (cs : List Char) : Option (Int × List Char) :=
  match cs with
  | 'Z' :: rest | 'z' :: rest => some (0, rest)
  | '+' :: rest => minutes? rest
  | '-' :: rest => (minutes? rest).map fun (minutes, rest) => (-minutes, rest)
  | _ => none
where
  minutes? (cs : List Char) : Option (Int × List Char) := do
    let (hour, cs) ← digitsAt? 2 cs
    let (minute, cs) ← digitsAt? 2 (← behindChar? ':' cs)
    if hour < 24 ∧ minute < 60 then return ((60 * hour + minute : Nat), cs) else none

/--
The day at the beginning of a text, and the rest. A month has at most 31 days here.
-/
def dayAt? (cs : List Char) : Option (CalendarDay × List Char) := do
  let (year, cs) ← digitsAt? 4 cs
  let (month, cs) ← digitsAt? 2 (← behindChar? '-' cs)
  let (day, cs) ← digitsAt? 2 (← behindChar? '-' cs)
  if 1 ≤ month ∧ month ≤ 12 ∧ 1 ≤ day ∧ day ≤ 31 then return (⟨year, month, day⟩, cs) else none

/--
The time of day behind a day and the mark between them, with the offset if there is one.
-/
def timeBehindDay? (cs : List Char) : Option (ClockTime × Option Int × List Char) :=
  match cs with
  | 'T' :: rest | 't' :: rest | ' ' :: rest => do
    let (time, rest) ← timeAt? rest
    match offsetAt? rest with
    | some (offset, rest) => return (time, some offset, rest)
    | none => return (time, none, rest)
  | _ => none

/--
The moment at the beginning of a text, and the rest. Its day need not be one of the calendar.
-/
def momentAt? (cs : List Char) : Option (Moment × List Char) :=
  match dayAt? cs with
  | some (day, rest) =>
    match timeBehindDay? rest with
    | some (time, offset, rest) => some (.dayTime day time offset, rest)
    | none => some (.day day, rest)
  | none => (timeAt? cs).map fun (time, rest) => (.time time, rest)

/--
Whether the day of a moment, if it has one, is a day of the calendar.
-/
def hasValidDay : Moment → Bool
  | .day day => day.isValid
  | .dayTime day _ _ => day.isValid
  | .time _ => true

end ThreadLint.Toml
