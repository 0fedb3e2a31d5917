/-!
This module contains white space: the characters that separate words, and the operations that cut a
text at them.
-/

namespace ThreadLint.Text

/--
Whether a character is white space: the ASCII controls that move the cursor, the information
separators, and the space characters of Unicode.
-/
def isBlank (c : Char) : Bool :=
  let code := c.toNat
  (9 ≤ code && code ≤ 13) || (28 ≤ code && code ≤ 32) || code == 0x85 || code == 0xa0 ||
    code == 0x1680 || (0x2000 ≤ code && code ≤ 0x200a) || code == 0x2028 || code == 0x2029 ||
    code == 0x202f || code == 0x205f || code == 0x3000

/--
The text without its white space.
-/
def dropBlanks (text : String) : String :=
  String.ofList (text.toList.filter fun c => !isBlank c)

/--
The text without the white space at its two ends.
-/
def trim (text : String) : String :=
  String.ofList ((text.toList.dropWhile isBlank).reverse.dropWhile isBlank).reverse

/--
The words of a text: its longest runs of characters that are not white space.
-/
def words (text : String) : List String :=
  go [] text.toList
where
  /-- Collects the word under way in reverse. -/
  go (word : List Char) : List Char → List String
    | [] => finish word []
    | c :: rest => if isBlank c then finish word (go [] rest) else go (c :: word) rest
  finish (word : List Char) (others : List String) : List String :=
    if word.isEmpty then others else String.ofList word.reverse :: others

/--
The words of a text on one line, with one space between neighbours.
-/
def oneLine (text : String) : String :=
  " ".intercalate (words text)

end ThreadLint.Text
