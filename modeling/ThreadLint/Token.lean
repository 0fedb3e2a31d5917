import ThreadLint.Span

/-!
This module contains the tokens of the source language.

White space, comments and preprocessor lines are no tokens. They are kept as the leading trivia of
the token behind them, so that the tokens of a text hold every character of it.
-/

namespace ThreadLint

/--
The classes of tokens.
-/
inductive TokenKind where
  | identifier
  | keyword
  | number
  | string
  | char
  | punct
  | eof
  deriving DecidableEq, Repr, Inhabited

/--
The word for a class of tokens.
-/
def TokenKind.name : TokenKind → String
  | identifier => "identifier"
  | keyword => "keyword"
  | number => "number"
  | string => "string"
  | char => "char"
  | punct => "punct"
  | eof => "eof"

/--
A token: its text, where that starts, and the trivia in front of it.
-/
structure Token where
  kind : TokenKind
  text : String
  start : Nat
  trivia : String
  deriving DecidableEq, Repr, Inhabited

namespace Token

/--
The offset behind a token.
-/
def stop (token : Token) : Nat :=
  token.start + token.text.length

/--
The characters that a token covers.
-/
def extent (token : Token) : Extent :=
  ⟨token.start, token.stop⟩

/--
Whether a token is one of the given punctuation marks.
-/
def isPunct (token : Token) (texts : List String) : Bool :=
  token.kind == .punct && texts.contains token.text

/--
Whether a token is one of the given keywords.
-/
def isKeyword (token : Token) (texts : List String) : Bool :=
  token.kind == .keyword && texts.contains token.text

/--
Whether a token is an identifier or keyword with one of the given spellings.
-/
def isWord (token : Token) (texts : List String) : Bool :=
  (token.kind == .identifier || token.kind == .keyword) && texts.contains token.text

/--
Whether a token is an identifier.
-/
def isIdentifier (token : Token) : Bool :=
  token.kind == .identifier

/--
Whether a token ends the text.
-/
def isEnd (token : Token) : Bool :=
  token.kind == .eof

/--
Whether a token is a literal that is written as one token.
-/
def isLiteral (token : Token) : Bool :=
  token.kind == .number || token.kind == .string || token.kind == .char

/--
The opening brackets with the brackets that close them.
-/
def brackets : List (String × String) :=
  [("(", ")"), ("[", "]"), ("\x7b", "\x7d")]

/--
The closing bracket for an opening one.
-/
def closer? (token : Token) : Option String :=
  if token.kind == .punct then brackets.lookup token.text else none

/--
Whether a token is an opening bracket.
-/
def isOpener (token : Token) : Bool :=
  token.closer?.isSome

/--
Whether a token is a closing bracket.
-/
def isCloser (token : Token) : Bool :=
  token.isPunct (brackets.map Prod.snd)

/--
The name that an identifier stands for: its text without the mark that lets a keyword be a name.
-/
def identifierName (token : Token) : String :=
  match token.text.toList with
  | '@' :: rest => String.ofList rest
  | _ => token.text

end Token

end ThreadLint
