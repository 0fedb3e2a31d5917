import ThreadLint.Fault
import ThreadLint.Source
import ThreadLint.Text.Letter
import ThreadLint.Token

/-!
This module contains the words and punctuation marks of the source language, and the lexemes: for each
class of token, how many characters at the front of a text belong to it. `triviaLength` measures what
stands in front of a token, and `lexeme` measures the token itself. A text is divided into tokens by
these lengths; its last token is always the one of class `eof`, and no other is.
-/

namespace ThreadLint.Token

/-! ### Words and marks -/

/--
The words that are no identifiers.
-/
def keywords : List String :=
  ["abstract", "as", "base", "bool", "break", "byte", "case", "catch", "char", "checked", "class",
   "const", "continue", "decimal", "default", "delegate", "do", "double", "else", "enum", "event",
   "explicit", "extern", "false", "finally", "fixed", "float", "for", "foreach", "goto", "if",
   "implicit", "in", "int", "interface", "internal", "is", "lock", "long", "namespace", "new",
   "null", "object", "operator", "out", "override", "params", "private", "protected", "public",
   "readonly", "ref", "return", "sbyte", "sealed", "short", "sizeof", "stackalloc", "static",
   "string", "struct", "switch", "this", "throw", "true", "try", "typeof", "uint", "ulong",
   "unchecked", "unsafe", "ushort", "using", "virtual", "void", "volatile", "while"]

/--
The punctuation marks. A mark stands in front of every other one that it begins with.
-/
def marks : List String :=
  ["<<=", "??=", "...",
   "=>", "==", "!=", "<=", ">=", "&&", "||", "??", "?.", "++", "--",
   "+=", "-=", "*=", "/=", "%=", "&=", "|=", "^=", "<<", "::", "->",
   "\x7b", "\x7d", "(", ")", "[", "]", ";", ",", ".", ":", "?", "=", "<", ">",
   "+", "-", "*", "/", "%", "&", "|", "^", "!", "~", "@", "#"]

/--
Whether a word may begin with a character.
-/
def startsWord (c : Char) : Bool :=
  c == '_' || Text.isLetter c

/--
Whether a word may go on with a character.
-/
def continuesWord (c : Char) : Bool :=
  c == '_' || Text.isLetterOrNumeral c

/-! ### Lexemes -/

/--
A fault in a text, before its line is known.
-/
structure Flaw where
  reason : SyntaxReason
  offset : Nat
  deriving DecidableEq, Repr, Inhabited

/-! ### Trivia -/

/--
The number of characters in front of the next line feed.
-/
def lineLength (cs : List Char) : Nat :=
  (cs.takeWhile (· != '\n')).length

/--
The number of characters up to the end of a block comment, behind its first two.
-/
def commentLength? : List Char → Option Nat
  | [] => none
  | '*' :: '/' :: _ => some 2
  | _ :: rest => (commentLength? rest).map (· + 1)

/--
Whether a character between tokens is passed over.
-/
def isSpacing (c : Char) : Bool :=
  c == ' ' || c == '\t' || c == '\r' || c == '\n' || c == '\x0c' || c == '\x0b' || c == '\ufeff'

/--
Whether only blanks and tabs stand in front of the next character on its line, given whether that
was so one character before.
-/
def freshAfter (fresh : Bool) (c : Char) : Bool :=
  c == '\n' || (fresh && (c == ' ' || c == '\t'))

/--
The number of characters in front of the next token. A number sign begins a preprocessor line if it
is the first on its line, which `fresh` says of the place where the count begins.
-/
def triviaLength (offset : Nat) (fresh : Bool) (cs : List Char) : Except Flaw Nat :=
  match cs with
  | [] => .ok 0
  | '/' :: '/' :: rest => do
    let line := lineLength rest
    let more ← triviaLength (offset + (2 + line)) false (rest.drop line)
    return 2 + line + more
  | '/' :: '*' :: rest =>
    match commentLength? rest with
    | none => .error ⟨.unterminatedComment, offset⟩
    | some body => do
      let more ← triviaLength (offset + (2 + body)) false (rest.drop body)
      return 2 + body + more
  | c :: rest =>
    if isSpacing c then do
      let more ← triviaLength (offset + 1) (freshAfter fresh c) rest
      return 1 + more
    else if c == '#' && fresh then do
      let line := lineLength rest
      let more ← triviaLength (offset + (1 + line)) false (rest.drop line)
      return 1 + line + more
    else .ok 0
termination_by cs.length
decreasing_by all_goals simp only [List.length_cons, List.length_drop]; omega

/-! ### Literals -/

/--
The number of characters of a plain string behind its opening quote. A backslash takes the character
behind it along, and a line feed ends the line too early.
-/
def plainLength? : List Char → Option Nat
  | [] => none
  | '"' :: _ => some 1
  | '\n' :: _ => none
  | '\\' :: [] => none
  | '\\' :: _ :: rest => (plainLength? rest).map (· + 2)
  | _ :: rest => (plainLength? rest).map (· + 1)

/--
The number of characters of a verbatim string behind its opening quote. A quote inside is doubled.
-/
def verbatimLength? : List Char → Option Nat
  | [] => none
  | '"' :: '"' :: rest => (verbatimLength? rest).map (· + 2)
  | '"' :: _ => some 1
  | _ :: rest => (verbatimLength? rest).map (· + 1)

/--
The number of characters of a character literal behind its opening quote.
-/
def characterLength? : List Char → Option Nat
  | [] => none
  | '\'' :: _ => some 1
  | '\n' :: _ => none
  | '\\' :: [] => none
  | '\\' :: _ :: rest => (characterLength? rest).map (· + 2)
  | _ :: rest => (characterLength? rest).map (· + 1)

/--
The number of characters of a hole in an interpolated string, behind a brace that `depth` open
braces lead up to. The hole may hold strings and characters of its own, which end on their line or
are faults of their own.
-/
def holeLength (literal offset depth : Nat) (cs : List Char) : Except Flaw Nat :=
  match cs with
  | [] => .error ⟨.unterminatedString, literal⟩
  | '\x7b' :: rest => do
    let more ← holeLength literal (offset + 1) (depth + 1) rest
    return 1 + more
  | '\x7d' :: rest =>
    if depth ≤ 1 then .ok 1
    else do
      let more ← holeLength literal (offset + 1) (depth - 1) rest
      return 1 + more
  | '"' :: rest =>
    match plainLength? rest with
    | none => .error ⟨.unterminatedString, offset⟩
    | some inner => do
      let more ← holeLength literal (offset + (1 + inner)) depth (rest.drop inner)
      return 1 + inner + more
  | '@' :: '"' :: rest =>
    match verbatimLength? rest with
    | none => .error ⟨.unterminatedString, offset + 1⟩
    | some inner => do
      let more ← holeLength literal (offset + (2 + inner)) depth (rest.drop inner)
      return 2 + inner + more
  | '\'' :: rest =>
    match characterLength? rest with
    | none => .error ⟨.unterminatedCharacter, offset⟩
    | some inner => do
      let more ← holeLength literal (offset + (1 + inner)) depth (rest.drop inner)
      return 1 + inner + more
  | '\n' :: _ => .error ⟨.unterminatedString, literal⟩
  | _ :: rest => do
    let more ← holeLength literal (offset + 1) depth rest
    return 1 + more
termination_by cs.length
decreasing_by all_goals simp only [List.length_cons, List.length_drop]; omega

/--
The number of characters of an interpolated string behind its opening quote. A doubled brace stands
for itself, and a single one opens a hole.
-/
def interpolatedLength (verbatim : Bool) (literal offset : Nat) (cs : List Char) :
    Except Flaw Nat :=
  match cs with
  | [] => .error ⟨.unterminatedString, literal⟩
  | '"' :: '"' :: rest =>
    if verbatim then do
      let more ← interpolatedLength verbatim literal (offset + 2) rest
      return 2 + more
    else .ok 1
  | '"' :: _ => .ok 1
  | '\\' :: c :: rest =>
    if verbatim then do
      let more ← interpolatedLength verbatim literal (offset + 1) (c :: rest)
      return 1 + more
    else do
      let more ← interpolatedLength verbatim literal (offset + 2) rest
      return 2 + more
  | '\n' :: rest =>
    if verbatim then do
      let more ← interpolatedLength verbatim literal (offset + 1) rest
      return 1 + more
    else .error ⟨.unterminatedString, literal⟩
  | '\x7b' :: '\x7b' :: rest => do
    let more ← interpolatedLength verbatim literal (offset + 2) rest
    return 2 + more
  | '\x7b' :: rest => do
    let hole ← holeLength literal (offset + 1) 1 rest
    let more ← interpolatedLength verbatim literal (offset + (1 + hole)) (rest.drop hole)
    return 1 + hole + more
  | _ :: rest => do
    let more ← interpolatedLength verbatim literal (offset + 1) rest
    return 1 + more
termination_by cs.length
decreasing_by all_goals simp only [List.length_cons, List.length_drop]; omega

/--
The number of characters up to and with the first run of that many double quotes.
-/
def quotesLength? (quotes : Nat) : List Char → Option Nat
  | [] => none
  | c :: rest =>
    if (List.replicate quotes '"').isPrefixOf (c :: rest) then some quotes
    else (quotesLength? quotes rest).map (· + 1)

/--
The number of characters of a raw string, whose first character is the first of its quotes. As many
quotes end it as began it.
-/
def rawLength (literal : Nat) (cs : List Char) : Except Flaw Nat :=
  let quotes := (cs.takeWhile (· == '"')).length
  match quotesLength? quotes (cs.drop quotes) with
  | none => .error ⟨.unterminatedRawString, literal⟩
  | some body => .ok (quotes + body)

/--
Whether a text begins like a string with marks in front of its quote.
-/
def startsMarkedString (cs : List Char) : Bool :=
  match cs with
  | '$' :: '"' :: _ | '@' :: '"' :: _ | '$' :: '@' :: '"' :: _ | '@' :: '$' :: '"' :: _
  | '$' :: '$' :: _ => true
  | _ => false

/--
The number of characters of a string whose quote is the first character of `cs`, given the marks in
front of it. The first character is taken for the quote whatever it is.
-/
def quotedLength (interpolated verbatim : Bool) (literal : Nat) (cs : List Char) :
    Except Flaw Nat :=
  match cs with
  | [] => .error ⟨.unterminatedString, literal⟩
  | '"' :: '"' :: '"' :: _ => rawLength literal cs
  | _ :: rest => do
    let body ←
      if interpolated then interpolatedLength verbatim literal (literal + 1) rest
      else
        match (if verbatim then verbatimLength? rest else plainLength? rest) with
        | none => .error ⟨.unterminatedString, literal⟩
        | some body => .ok body
    return 1 + body

/--
The number of characters of a string, the marks in front of it included.
-/
def stringLength (offset : Nat) (cs : List Char) : Except Flaw Nat := do
  let marks := cs.takeWhile fun c => c == '$' || c == '@'
  let body ←
    quotedLength (marks.contains '$') (marks.contains '@') (offset + marks.length)
      (cs.drop marks.length)
  return marks.length + body

/-! ### Numbers and words -/

/--
Whether a character is a digit of a number or separates digits.
-/
def continuesDigits (c : Char) : Bool :=
  Text.isDigit c || c == '_'

/--
The number of characters of a fraction: a point with a digit behind it.
-/
def fractionLength (cs : List Char) : Nat :=
  match cs with
  | '.' :: d :: rest =>
    if Text.isDigit d then 1 + ((d :: rest).takeWhile continuesDigits).length else 0
  | _ => 0

/--
The number of characters of an exponent: its mark, a sign or none, and digits.
-/
def exponentLength (cs : List Char) : Nat :=
  match cs with
  | 'e' :: rest | 'E' :: rest =>
    let sign := match rest with
      | '+' :: _ | '-' :: _ => 1
      | _ => 0
    let digits := ((rest.drop sign).takeWhile Text.isDigit).length
    if digits = 0 then 0 else 1 + sign + digits
  | _ => 0

/--
The number of characters of a number. In base two and sixteen it takes every letter and digit; in
base ten it has a fraction, an exponent and the letters of its type.
-/
def numberLength (cs : List Char) : Nat :=
  match cs with
  | '0' :: 'x' :: rest | '0' :: 'X' :: rest | '0' :: 'b' :: rest | '0' :: 'B' :: rest =>
    2 + (rest.takeWhile continuesWord).length
  | _ =>
    let whole := (cs.takeWhile continuesDigits).length
    let fraction := fractionLength (cs.drop whole)
    let exponent := exponentLength (cs.drop (whole + fraction))
    let suffix :=
      ((cs.drop (whole + fraction + exponent)).takeWhile ("uUlLfFdDmM".toList.contains ·)).length
    whole + fraction + exponent + suffix

/--
Whether a text begins with a number: with a digit, or with a point and a digit.
-/
def startsNumber (cs : List Char) : Bool :=
  match cs with
  | '.' :: d :: _ => Text.isDigit d
  | c :: _ => Text.isDigit c
  | [] => false

/--
Whether a text begins with a word. The mark that lets a keyword be a name is part of the word.
-/
def startsIdentifier (cs : List Char) : Bool :=
  match cs with
  | '@' :: c :: _ => startsWord c
  | c :: _ => startsWord c
  | [] => false

/--
The number of characters of a word.
-/
def wordLength (cs : List Char) : Nat :=
  1 + ((cs.drop 1).takeWhile continuesWord).length

/--
The class of a word.
-/
def wordKind (word : String) : TokenKind :=
  if keywords.contains word then .keyword else .identifier

/--
The class and length of the token at the front of a text that is not empty and begins with no
trivia.
-/
def lexeme (offset : Nat) (cs : List Char) : Except Flaw (TokenKind × Nat) :=
  if startsMarkedString cs || cs.head? == some '"' then do
    return (.string, ← stringLength offset cs)
  else if cs.head? == some '\'' then
    match characterLength? (cs.drop 1) with
    | none => .error ⟨.unterminatedCharacter, offset⟩
    | some body => .ok (.char, 1 + body)
  else if startsNumber cs then .ok (.number, numberLength cs)
  else if startsIdentifier cs then
    let length := wordLength cs
    .ok (wordKind (String.ofList (cs.take length)), length)
  else
    match marks.find? fun mark => mark.toList.isPrefixOf cs with
    | some mark => .ok (.punct, mark.length)
    | none => .error ⟨.unexpectedCharacter (cs.headD ' '), offset⟩

/-! ### Tokens of a text -/

/--
The tokens of a text that begins at an offset. `fresh` says whether only blanks and tabs stand in
front of it on its line.
-/
def tokensFrom (offset : Nat) (fresh : Bool) (cs : List Char) : Except Flaw (List Token) := do
  let trivia ← triviaLength offset fresh cs
  match _h : cs.drop trivia with
  | [] => return [⟨.eof, "", offset + trivia, String.ofList (cs.take trivia)⟩]
  | c :: rest =>
    let start := offset + trivia
    let (kind, length) ← lexeme start (c :: rest)
    let token : Token :=
      ⟨kind, String.ofList ((c :: rest).take length), start, String.ofList (cs.take trivia)⟩
    let others ← tokensFrom (start + length) false (rest.drop (length - 1))
    return token :: others
termination_by cs.length
decreasing_by
  have shorter := congrArg List.length _h
  simp only [List.length_drop, List.length_cons] at shorter ⊢
  omega

/--
The fault that a flaw is in a text.
-/
def Flaw.toFault (source : Source) (flaw : Flaw) : SyntaxFault where
  reason := flaw.reason
  offset := flaw.offset
  position := source.position flaw.offset

/--
The tokens of a text.
-/
def tokenize (source : Source) : Except SyntaxFault (List Token) :=
  (tokensFrom 0 true source.chars).mapError (·.toFault source)

end ThreadLint.Token
