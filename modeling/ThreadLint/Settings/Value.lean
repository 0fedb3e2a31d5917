import ThreadLint.Decimal.Shortest
import ThreadLint.Fault
import ThreadLint.Keyed

/-!
This module contains the values that settings may be given, before anything is known of what they
should be, and among them days and times of day, as settings files can write them.
-/

namespace ThreadLint

/-! ### Days and times of day -/

/--
A day of the calendar.
-/
structure CalendarDay where
  year : Nat
  month : Nat
  day : Nat
  deriving DecidableEq, Repr, Inhabited

/--
A time of day.
-/
structure ClockTime where
  hour : Nat
  minute : Nat
  second : Nat
  microsecond : Nat
  deriving DecidableEq, Repr, Inhabited

/--
A day, a time of day, or both. The offset says by how many minutes the clock is ahead of universal
time, if that is known.
-/
inductive Moment where
  | day (day : CalendarDay)
  | time (time : ClockTime)
  | dayTime (day : CalendarDay) (time : ClockTime) (offset : Option Int)
  deriving DecidableEq, Repr, Inhabited

/--
A number with zeros in front, up to so many digits.
-/
def paddedNumber (width n : Nat) : String :=
  let digits := Nat.toDigits 10 n
  String.ofList (List.replicate (width - digits.length) '0' ++ digits)

namespace CalendarDay

/--
The number of days of a month.
-/
def monthLength (year month : Nat) : Nat :=
  let isLeap := (year % 4 = 0 ∧ year % 100 ≠ 0) ∨ year % 400 = 0
  if month = 2 then (if isLeap then 29 else 28)
  else if month = 4 ∨ month = 6 ∨ month = 9 ∨ month = 11 then 30
  else 31

/--
Whether the calendar has a day. It begins with the year one.
-/
def isValid (day : CalendarDay) : Bool :=
  1 ≤ day.year && 1 ≤ day.month && day.month ≤ 12 && 1 ≤ day.day &&
    day.day ≤ monthLength day.year day.month

/--
The written form of a day.
-/
def text (day : CalendarDay) : String :=
  paddedNumber 4 day.year ++ "-" ++ paddedNumber 2 day.month ++ "-" ++ paddedNumber 2 day.day

/--
The numbers of a day.
-/
def numbers (day : CalendarDay) : List Nat :=
  [day.year, day.month, day.day]

end CalendarDay

namespace ClockTime

/--
The written form of a time of day. A fraction of a second is left out if there is none.
-/
def text (time : ClockTime) : String :=
  paddedNumber 2 time.hour ++ ":" ++ paddedNumber 2 time.minute ++ ":" ++
    paddedNumber 2 time.second ++
    (if time.microsecond = 0 then "" else "." ++ paddedNumber 6 time.microsecond)

/--
The numbers of a time of day, without seconds and fractions that are zero.
-/
def numbers (time : ClockTime) : List Nat :=
  if time.microsecond ≠ 0 then [time.hour, time.minute, time.second, time.microsecond]
  else if time.second ≠ 0 then [time.hour, time.minute, time.second]
  else [time.hour, time.minute]

end ClockTime

namespace Moment

/--
The written form of an offset from universal time.
-/
def offsetText (minutes : Int) : String :=
  (if minutes < 0 then "-" else "+") ++ paddedNumber 2 (minutes.natAbs / 60) ++ ":" ++
    paddedNumber 2 (minutes.natAbs % 60)

/--
The written form of a moment.
-/
def text : Moment → String
  | day date => date.text
  | time clock => clock.text
  | dayTime date clock offset =>
    date.text ++ " " ++ clock.text ++ (match offset with
      | some minutes => offsetText minutes
      | none => "")

/--
An offset from universal time inside another value. One below zero is a whole day back and some
seconds ahead.
-/
def innerOffset (minutes : Int) : String :=
  if minutes = 0 then "datetime.timezone.utc"
  else
    let days := if minutes < 0 then "days=-1, " else ""
    let seconds := (if minutes < 0 then minutes + 1440 else minutes) * 60
    "datetime.timezone(datetime.timedelta(" ++ days ++ "seconds=" ++ toString seconds ++ "))"

/--
The text of a moment inside another value.
-/
def inner : Moment → String
  | day date => "datetime.date(" ++ joined date.numbers ++ ")"
  | time clock => "datetime.time(" ++ joined clock.numbers ++ ")"
  | dayTime date clock offset =>
    "datetime.datetime(" ++ joined (date.numbers ++ clock.numbers) ++ (match offset with
      | some minutes => ", tzinfo=" ++ innerOffset minutes
      | none => "") ++ ")"
where
  joined (numbers : List Nat) : String :=
    ", ".intercalate (numbers.map toString)

end Moment

/-! ### Values -/

/--
A value of a setting. The entries of a table keep their order, and no key occurs twice.
-/
inductive Value where
  | null
  | bool (value : Bool)
  | int (value : Int)
  | real (value : Float)
  | text (value : String)
  | moment (value : Moment)
  | list (items : List Value)
  | table (entries : List (String × Value))
  deriving Inhabited

namespace Value

mutual

/--
The text of a value inside another one.
-/
def inner : Value → String
  | null => "None"
  | bool true => "True"
  | bool false => "False"
  | int value => toString value
  | real value => Decimal.text value
  | text value => Text.quoted value
  | moment value => value.inner
  | list items => "[" ++ innerItems items ++ "]"
  | table entries => "\x7b" ++ innerEntries entries ++ "\x7d"

/--
The texts of the items of a list, with commas between them.
-/
def innerItems : List Value → String
  | [] => ""
  | [item] => item.inner
  | item :: rest => item.inner ++ ", " ++ innerItems rest

/--
The texts of the entries of a table, with commas between them.
-/
def innerEntries : List (String × Value) → String
  | [] => ""
  | [(key, value)] => Text.quoted key ++ ": " ++ value.inner
  | (key, value) :: rest => Text.quoted key ++ ": " ++ value.inner ++ ", " ++ innerEntries rest

end

mutual

/--
Whether a value can be written: no whole number in it has too many digits.
-/
def isWritable : Value → Bool
  | int value => decide (value.natAbs < Decimal.tenTo Decimal.digitLimit)
  | list items => areWritable items
  | table entries => haveWritableValues entries
  | _ => true

/--
Whether all items of a list can be written.
-/
def areWritable : List Value → Bool
  | [] => true
  | item :: rest => item.isWritable && areWritable rest

/--
Whether the values of all entries of a table can be written.
-/
def haveWritableValues : List (String × Value) → Bool
  | [] => true
  | (_, value) :: rest => value.isWritable && haveWritableValues rest

end

/--
The text of a value as messages show it, if it can be written. Only inside other values a text is
quoted, and a moment takes another form.
-/
def shown (value : Value) : Except Fault String :=
  if value.isWritable then
    match value with
    | text words => .ok words
    | moment value => .ok value.text
    | value => .ok value.inner
  else .error (.badValue .tooLong)

/--
Whether a value counts as switched on: anything but nothing, no, zero and what is empty.
-/
def isOn : Value → Bool
  | null => false
  | bool value => value
  | int value => value != 0
  | real value => !(value == 0)
  | text value => !value.isEmpty
  | moment _ => true
  | list items => !items.isEmpty
  | table entries => !entries.isEmpty

end Value

/--
A table of values by their keys.
-/
abbrev Entries := Keyed Value

/--
The fault that a value makes no sense for a setting. There is another one if the value cannot be
written.
-/
def Value.refused {α : Type} (value : Value) (key : String) (problem : SettingProblem) :
    Except Fault α := do
  throw (.setting (.text key) (← value.shown) problem)

end ThreadLint
