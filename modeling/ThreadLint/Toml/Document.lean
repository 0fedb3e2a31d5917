import ThreadLint.Toml.Number
import ThreadLint.Toml.Table

/-!
This module contains TOML documents: how their lines are read, and the table of values that they
stand for.
-/

namespace ThreadLint.Toml

/--
What a line of a document says: that the key below a header or in a series is open from here on, or
that a key has a value.
-/
inductive Line where
  | header (key : List String)
  | next (key : List String)
  | assignment (key : List String) (value : Value)

/--
Whether a character may stand in a name without quotes.
-/
def isBare (c : Char) : Bool :=
  c.isAlphanum || c == '-' || c == '_'

/--
One name of a key.
-/
def name : Reader String := do
  match ← Reader.peek with
  | none => throw .malformed
  | some c =>
    if isBare c then return String.ofList (← Reader.takeWhile isBare)
    else if c == '"' || c == '\'' then
      Reader.expect c.toString
      lineString c
    else throw .malformed

/--
The names of a key with points between them, so many at most.
-/
def namesAtMost : Nat → Reader (List String)
  | 0 => throw .malformed
  | bound + 1 => do
    let first ← name
    Reader.blanks
    if ← Reader.accept "." then
      Reader.blanks
      return first :: (← namesAtMost bound)
    else return [first]

/--
A key. It has no more names than characters are ahead.
-/
def key : Reader (List String) := do
  namesAtMost (← get).length

/--
The day or time of day that is ahead, if there is one. Its day must be one of the calendar.
-/
def moment? : Reader (Option Moment) := do
  match momentAt? (← get) with
  | none => return none
  | some (moment, rest) =>
    Reader.ensure (hasValidDay moment)
    set rest
    return some moment

mutual

/--
A value, where so many calls may be nested at most.
-/
def valueAtMost : Nat → Reader Value
  | 0 => throw .malformed
  | bound + 1 => do
    match ← Reader.peek with
    | none => throw .malformed
    | some c =>
      if c == '"' || c == '\'' then
        Reader.expect c.toString
        return .text (← string c)
      else if c == '[' then
        Reader.expect "["
        return .list (← itemsAtMost bound)
      else if c == '\x7b' then
        Reader.expect "\x7b"
        Reader.blanks
        if ← Reader.accept "\x7d" then return .table []
        else return .table (entriesOf (← membersAtMost bound []))
      else if ← Reader.accept "true" then return .bool true
      else if ← Reader.accept "false" then return .bool false
      else if let some moment ← moment? then return .moment moment
      else number

/--
The items of a list up to its closing bracket. A comma may stand behind the last one.
-/
def itemsAtMost : Nat → Reader (List Value)
  | 0 => throw .malformed
  | bound + 1 => do
    Reader.gap
    if ← Reader.accept "]" then return []
    else
      let first ← valueAtMost bound
      Reader.gap
      if ← Reader.accept "," then return first :: (← itemsAtMost bound)
      else
        Reader.expect "]"
        return [first]

/--
The members of a table between braces up to the closing one, on top of those in front of them.
-/
def membersAtMost : Nat → Slots → Reader Slots
  | 0, _ => throw .malformed
  | bound + 1, slots => do
    let key ← key
    Reader.expect "="
    Reader.blanks
    let value ← valueAtMost bound
    let slots ← Reader.required (slots.assign 0 value key)
    Reader.blanks
    if ← Reader.accept "," then
      Reader.blanks
      membersAtMost bound slots
    else
      Reader.expect "\x7d"
      return slots

end

/--
A value. No more than two calls are nested for each character ahead.
-/
def value : Reader Value := do
  valueAtMost (2 * (← get).length + 2)

/--
What a line says, unless it is empty or holds only a comment.
-/
def line : Reader (Option Line) := do
  match ← Reader.peek with
  | none => return none
  | some c =>
    if c == '\n' || c == '#' then return none
    else if ← Reader.accept "[[" then
      Reader.blanks
      let key ← key
      Reader.expect "]]"
      return some (.next key)
    else if ← Reader.accept "[" then
      Reader.blanks
      let key ← key
      Reader.expect "]"
      return some (.header key)
    else
      let key ← key
      Reader.expect "="
      Reader.blanks
      return some (.assignment key (← value))

/--
A document as far as its lines are taken in: its tables, the key of the last header, and the number
of headers so far.
-/
structure Document where
  slots : Slots := []
  header : List String := []
  part : Nat := 0

namespace Document

/--
A document with one more line.
-/
def step? (document : Document) : Line → Option Document
  | .header key => do
    let slots ← document.slots.within (Slots.openTable (key.getLastD "")) key.dropLast
    return ⟨slots, key, document.part + 1⟩
  | .next key => do
    let slots ← document.slots.within (Slots.openNext (key.getLastD "")) key.dropLast
    return ⟨slots, key, document.part + 1⟩
  | .assignment key value => do
    let slots ← document.slots.within (Slots.assign document.part value key) document.header
    return { document with slots := slots }

end Document

/--
A document with the lines that are ahead, so many at most.
-/
def linesAtMost : Nat → Document → Reader Document
  | 0, _ => throw .malformed
  | bound + 1, document => do
    Reader.blanks
    let document ← match ← line with
      | some line => Reader.required (document.step? line)
      | none => pure document
    Reader.blanks
    Reader.comment
    if (← Reader.peek).isNone then return document
    else
      Reader.expect "\n"
      linesAtMost bound document

/--
A text with every pair of a carriage return and a line feed as a line feed alone.
-/
def withLineFeeds : List Char → List Char
  | '\r' :: '\n' :: rest => '\n' :: withLineFeeds rest
  | c :: rest => c :: withLineFeeds rest
  | [] => []

/--
The table of values that a text stands for, if it is a document.
-/
def entries (text : String) : Except Problem Entries := do
  let cs := withLineFeeds text.toList
  let document ← (linesAtMost (cs.length + 1) {}).run' cs
  return entriesOf document.slots

end ThreadLint.Toml
