import ThreadLint.Text.Quoted

/-!
This module contains JSON values and their text, on one line or with every item on a line of its
own.
-/

namespace ThreadLint

/--
A JSON value. A number that need not be whole is given by its spelling. The members of a record keep
their order.
-/
inductive Json where
  | null
  | bool (value : Bool)
  | int (value : Int)
  | number (spelling : String)
  | text (value : String)
  | list (items : List Json)
  | record (members : List (String × Json))
  deriving Inhabited

namespace Json

/--
A number below 65536 as four digits in base 16.
-/
def escapedUnit (unit : Nat) : String :=
  "\\u" ++ Text.hexadecimal 4 unit

/--
A character between the quotes of a string. Everything but printable ASCII is escaped, beyond the
first 65536 code points as a pair of surrogates.
-/
def escapedChar (c : Char) : String :=
  match c with
  | '"' => "\\\""
  | '\\' => "\\\\"
  | '\n' => "\\n"
  | '\r' => "\\r"
  | '\t' => "\\t"
  | '\x08' => "\\b"
  | '\x0c' => "\\f"
  | c =>
    let code := c.toNat
    if 0x20 ≤ code ∧ code ≤ 0x7e then c.toString
    else if code < 0x10000 then escapedUnit code
    else
      let rest := code - 0x10000
      escapedUnit (0xd800 + rest / 0x400) ++ escapedUnit (0xdc00 + rest % 0x400)

/--
A string between its quotes.
-/
def quoted (text : String) : String :=
  "\"" ++ String.join (text.toList.map escapedChar) ++ "\""

/--
A line break in front of an item that stands at some depth, if items have lines of their own. Every
level of depth takes two blanks.
-/
def lineBreak (isTall : Bool) (depth : Nat) : String :=
  if isTall then "\n" ++ String.ofList (List.replicate (2 * depth) ' ') else ""

/--
The texts of some items between a pair of brackets.
-/
def bracketed (isTall : Bool) (depth : Nat) (opener closer : String) (items : List String) :
    String :=
  if items.isEmpty then opener ++ closer
  else
    let comma := if isTall then "," else ", "
    opener ++ lineBreak isTall (depth + 1) ++
      (comma ++ lineBreak isTall (depth + 1)).intercalate items ++ lineBreak isTall depth ++ closer

mutual

/--
The text of a value at some depth.
-/
def textAt (isTall : Bool) (depth : Nat) : Json → String
  | null => "null"
  | bool value => if value then "true" else "false"
  | int value => toString value
  | number spelling => spelling
  | text value => quoted value
  | list items => bracketed isTall depth "[" "]" (itemTexts isTall (depth + 1) items)
  | record members =>
    bracketed isTall depth "\x7b" "\x7d" (memberTexts isTall (depth + 1) members)

/--
The texts of the items of a list.
-/
def itemTexts (isTall : Bool) (depth : Nat) : List Json → List String
  | [] => []
  | item :: rest => textAt isTall depth item :: itemTexts isTall depth rest

/--
The texts of the members of a record.
-/
def memberTexts (isTall : Bool) (depth : Nat) : List (String × Json) → List String
  | [] => []
  | (key, value) :: rest =>
    (quoted key ++ ": " ++ textAt isTall depth value) :: memberTexts isTall depth rest

end

/--
The text of a value on one line.
-/
def line (value : Json) : String :=
  textAt false 0 value

/--
The text of a value with every item and member on a line of its own.
-/
def tall (value : Json) : String :=
  textAt true 0 value

end Json

end ThreadLint
