/-!
This module contains the parts of dotted names and other cuts of a text at a fixed character, and the
lines of a text, where every character counts that ends a line.
-/

namespace ThreadLint.Text

/-! ### Cuts at a character -/

/--
Whether a text begins with another.
-/
def startsWith (text start : String) : Bool :=
  start.toList.isPrefixOf text.toList

/--
Whether a text ends with another.
-/
def endsWith (text ending : String) : Bool :=
  ending.toList.isSuffixOf text.toList

/--
The text in front of the first separator, or all of it if there is none.
-/
def beforeFirst (separator : Char) (text : String) : String :=
  String.ofList (text.toList.takeWhile (· != separator))

/--
The text behind the first separator, or nothing if there is none.
-/
def afterFirst (separator : Char) (text : String) : String :=
  String.ofList ((text.toList.dropWhile (· != separator)).drop 1)

/--
The text behind the last separator, or all of it if there is none.
-/
def afterLast (separator : Char) (text : String) : String :=
  String.ofList (text.toList.reverse.takeWhile (· != separator)).reverse

/--
The pieces of a text between the separators. There is one more of them than there are separators.
-/
def pieces (separator : Char) (text : String) : List String :=
  go [] text.toList
where
  /-- Collects the piece under way in reverse. -/
  go (piece : List Char) : List Char → List String
    | [] => [String.ofList piece.reverse]
    | c :: rest =>
      if c == separator then String.ofList piece.reverse :: go [] rest else go (c :: piece) rest

/--
The text without the given character at its end.
-/
def trimEnd (unwanted : Char) (text : String) : String :=
  String.ofList (text.toList.reverse.dropWhile (· == unwanted)).reverse

/--
The last segment of a dotted name.
-/
def lastSegment (name : String) : String :=
  afterLast '.' name

/--
The offset at which a text stands in another for the last time.
-/
def lastOffset? (part text : List Char) : Option Nat :=
  go 0 text
where
  /-- The offsets count from the beginning of the whole text. -/
  go (offset : Nat) : List Char → Option Nat
    | [] => if part.isEmpty then some offset else none
    | c :: rest =>
      (go (offset + 1) rest).or (if part.isPrefixOf (c :: rest) then some offset else none)

/--
The place in a text of so many characters that an offset means. One below zero counts from the end.
-/
def place (length : Nat) (offset : Int) : Nat :=
  if offset < 0 then (length + offset).toNat else min offset.toNat length

/--
The characters in front of an offset.
-/
def before (text : List Char) (offset : Int) : List Char :=
  text.take (place text.length offset)

/--
The characters behind an offset.
-/
def behind (text : List Char) (offset : Int) : List Char :=
  text.drop (place text.length offset)

/--
The characters of a text from one offset up to another.
-/
def slice (text : List Char) (start stop : Nat) : String :=
  String.ofList ((text.drop start).take (stop - start))

/-! ### Lines -/

/--
Whether a character ends a line: the line and form feeds, the carriage return, the separators of
files, groups and records, and the line and paragraph separators of Unicode.
-/
def isLineEnd (c : Char) : Bool :=
  let code := c.toNat
  (10 ≤ code && code ≤ 13) || (28 ≤ code && code ≤ 30) || code == 0x85 || code == 0x2028 ||
    code == 0x2029

/--
The lines of a text, each with the characters that end it. A carriage return and a line feed behind
it end one line. Only the last line may have no end.
-/
def lines (text : String) : List String :=
  go [] text.toList
where
  /-- Collects the line under way in reverse. -/
  go (line : List Char) : List Char → List String
    | [] => if line.isEmpty then [] else [String.ofList line.reverse]
    | '\r' :: '\n' :: rest => String.ofList ('\n' :: '\r' :: line).reverse :: go [] rest
    | c :: rest =>
      if isLineEnd c then String.ofList (c :: line).reverse :: go [] rest else go (c :: line) rest

end ThreadLint.Text
