/-!
This module contains readers of documents in the settings format TOML, which are functions from the
characters ahead to what they say and the characters behind it, and the strings of TOML: between single
or double quotes, where only in the latter a backslash is more than itself, and on one line or between
three quotes on several ones.
-/

namespace ThreadLint.Toml

/-! ### Readers -/

/--
Why a document is not read: it is none, or it has a whole number of so many digits, which are too
many.
-/
inductive Problem where
  | malformed
  | tooLong (digits : Nat)
  deriving DecidableEq, Repr, Inhabited

/--
A reader. It fails if the characters ahead are not as they should be.
-/
abbrev Reader (α : Type) := StateT (List Char) (Except Problem) α

namespace Reader

/--
What may be missing. A document without it is malformed.
-/
def required {α : Type} : Option α → Reader α
  | some value => return value
  | none => throw .malformed

/--
Fails unless something holds.
-/
def ensure (holds : Bool) : Reader Unit :=
  if holds then return () else throw .malformed

/--
The next character, which stays ahead.
-/
def peek : Reader (Option Char) := do
  return (← get).head?

/--
Takes a word if it stands ahead, and says whether it did.
-/
def accept (word : String) : Reader Bool := fun cs =>
  if word.toList.isPrefixOf cs then .ok (true, cs.drop word.length) else .ok (false, cs)

/--
Takes a word that must stand ahead.
-/
def expect (word : String) : Reader Unit := do
  ensure (← accept word)

/--
Takes characters as long as they pass a test.
-/
def takeWhile (passes : Char → Bool) : Reader (List Char) := fun cs =>
  let taken := cs.takeWhile passes
  .ok (taken, cs.drop taken.length)

/--
Takes what a function finds ahead, which says how many characters that is.
-/
def measured {α : Type} (find : List Char → Option (α × Nat)) : Reader α := do
  let (value, size) ← required (find (← get))
  modify (List.drop size)
  return value

/--
Whether a character is white space within a line.
-/
def isBlank (c : Char) : Bool :=
  c == ' ' || c == '\t'

/--
Whether a character may stand in comments and strings on one line. Control characters may not, apart
from the tab.
-/
def isLegal (c : Char) : Bool :=
  c == '\t' || (0x20 ≤ c.toNat && c.toNat != 0x7f)

/--
Passes over white space within a line.
-/
def blanks : Reader Unit := do
  let _ ← takeWhile isBlank

/--
Passes over a comment, if one stands ahead, up to the end of its line.
-/
def comment : Reader Unit := do
  if (← peek) == some '#' then
    let text ← takeWhile (· != '\n')
    ensure (text.all isLegal)

/--
What is ahead behind white space, line breaks and comments. `inComment` says whether a comment is
under way.
-/
def behindGap (inComment : Bool) : List Char → Option (List Char)
  | [] => some []
  | c :: rest =>
    if c == '\n' then behindGap false rest
    else if inComment then
      if isLegal c then behindGap true rest else none
    else if isBlank c then behindGap false rest
    else if c == '#' then behindGap true rest
    else some (c :: rest)

/--
Passes over white space, line breaks and comments.
-/
def gap : Reader Unit := do
  set (← required (behindGap false (← get)))

end Reader

/-! ### Strings -/

/--
The characters in front of the mark that ends a string, and the number of them together with the
mark. If a backslash counts, the character behind it is never part of the mark.
-/
def body? (mark : List Char) (escapes : Bool) : List Char → Option (List Char × Nat)
  | [] => none
  | c :: rest =>
    if mark.isPrefixOf (c :: rest) then some ([], mark.length)
    else if escapes && c == '\\' then
      match rest with
      | [] => none
      | d :: rest => (body? mark escapes rest).map fun (text, size) => (c :: d :: text, size + 2)
    else (body? mark escapes rest).map fun (text, size) => (c :: text, size + 1)

/--
The value of a digit in base 16.
-/
def hexValue? (c : Char) : Option Nat :=
  if c.isDigit then some (c.toNat - '0'.toNat)
  else if 'a' ≤ c ∧ c ≤ 'f' then some (c.toNat - 'a'.toNat + 10)
  else if 'A' ≤ c ∧ c ≤ 'F' then some (c.toNat - 'A'.toNat + 10)
  else none

/--
The character whose code point stands ahead in so many digits of base 16.
-/
def codePoint? (width : Nat) (cs : List Char) : Option Char := do
  let digits ← (cs.take width).mapM hexValue?
  let code := digits.foldl (fun n digit => 16 * n + digit) 0
  if digits.length = width ∧ code.isValidChar then some (Char.ofNat code) else none

/--
What a letter behind a backslash stands for.
-/
def escapes : List (Char × Char) :=
  [('b', '\x08'), ('t', '\t'), ('n', '\n'), ('f', '\x0c'), ('r', '\r'), ('"', '"'), ('\\', '\\')]

/--
The number of characters that a backslash at the end of a line takes away: up to the first character
that is no white space. There is none if the line goes on.
-/
def lineEnd? (cs : List Char) : Option Nat :=
  let front := (cs.takeWhile Reader.isBlank).length
  match cs.drop front with
  | '\n' :: rest =>
    some (front + 1 + (rest.takeWhile fun c => Reader.isBlank c || c == '\n').length)
  | _ => none

/--
What the characters behind a backslash stand for, and their number.
-/
def escape? (severalLines : Bool) (cs : List Char) : Option (List Char × Nat) :=
  match cs with
  | 'u' :: rest => (codePoint? 4 rest).map fun c => ([c], 5)
  | 'U' :: rest => (codePoint? 8 rest).map fun c => ([c], 9)
  | c :: _ =>
    match escapes.lookup c with
    | some meant => some ([meant], 1)
    | none => if severalLines then (lineEnd? cs).map fun size => ([], size) else none
  | [] => none

/--
The text that the body of a string between double quotes stands for. The number says how many
characters an escape has already taken.
-/
def unescaped? (severalLines : Bool) : Nat → List Char → Option (List Char)
  | _, [] => some []
  | taken + 1, _ :: rest => unescaped? severalLines taken rest
  | 0, c :: rest =>
    if c == '\\' then do
      let (text, size) ← escape? severalLines rest
      return text ++ (← unescaped? severalLines size rest)
    else (unescaped? severalLines 0 rest).map (c :: ·)

/--
A string on one line whose opening quote has been taken.
-/
def lineString (quote : Char) : Reader String := do
  let escapes := quote == '"'
  let body ← Reader.measured (body? [quote] escapes)
  Reader.ensure (body.all Reader.isLegal)
  if escapes then return String.ofList (← Reader.required (unescaped? false 0 body))
  else return String.ofList body

/--
A string on several lines whose opening quotes have been taken. A line break right behind them does
not count, and up to two quotes in front of the closing ones belong to the text.
-/
def blockString (quote : Char) : Reader String := do
  let escapes := quote == '"'
  let _ ← Reader.accept "\n"
  let body ← Reader.measured (body? [quote, quote, quote] escapes)
  Reader.ensure (body.all fun c => Reader.isLegal c || c == '\n')
  let text ← if escapes then Reader.required (unescaped? true 0 body) else pure body
  if ← Reader.accept quote.toString then
    if ← Reader.accept quote.toString then return String.ofList (text ++ [quote, quote])
    else return String.ofList (text ++ [quote])
  else return String.ofList text

/--
A string whose first quote has been taken.
-/
def string (quote : Char) : Reader String := do
  if ← Reader.accept (String.ofList [quote, quote]) then blockString quote else lineString quote

end ThreadLint.Toml
