import ThreadLint.Grammar.Skip
import ThreadLint.Grammar.TypeName

/-!
This module contains the places where the grammar is recursive. A `Grammar` holds a parser for each
construct that may stand inside others of its sort, and every other parser is written over a
`Grammar`. It only asks for such a construct behind a token that it has taken, so a grammar for
texts of as many tokens as a text has is enough for that text.
-/

namespace ThreadLint

/--
The constructs that may stand inside others of their sort.
-/
structure Grammar where
  /-- An expression. -/
  expression : Parser Node
  /-- An expression with operators in front of it and behind it, but none between two operands. -/
  operand : Parser Node
  /-- Operands with operators of at least some precedence between them. -/
  operation : Nat → Parser Node
  /-- A pattern, with or without a designation. -/
  pattern : Bool → Parser Node
  /-- The contents of an object or collection, in braces. -/
  contents : Parser (List Node)
  /-- A statement that must be understood. -/
  statement : Parser Node
  /-- A statement that is passed over if it is not understood. -/
  embedded : Parser Node
  /-- The members of a type, or of a namespace if there is no type. -/
  members : Option String → Parser (List Node)

namespace Grammar

/--
The grammar of nothing.
-/
def exhausted : Grammar where
  expression := Parser.exhausted
  operand := Parser.exhausted
  operation _ := Parser.exhausted
  pattern _ := Parser.exhausted
  contents := Parser.exhausted
  statement := Parser.exhausted
  embedded := Parser.exhausted
  members _ := Parser.exhausted

end Grammar

namespace Parser

/--
Whether a token ends neither a construct with the given closing bracket nor the text.
-/
def isBefore (closer : String) (token : Token) : Bool :=
  !token.isPunct [closer] && !token.isEnd

/--
A block of statements.
-/
def block (g : Grammar) : Parser Node := do
  let first ← here
  let _ ← require ["\x7b"]
  let statements ← manyWhile (isBefore "\x7d") g.embedded
  let _ ← expect "\x7d"
  node .block first statements

/--
The value of a variable: an expression, or contents in braces.
-/
def initialValue (g : Grammar) : Parser Node := do
  if ← atPunct ["\x7b"] then
    let first ← here
    let items ← g.contents
    node (.paren .contents) first items
  else g.expression

/--
One item of the contents of an object or collection.
-/
def contentsItem (g : Grammar) : Parser Node := do
  if ← atPunct ["\x7b"] then initialValue g
  else if ← atPunct ["["] then
    skipGroup
    let _ ← require ["="]
    initialValue g
  else g.expression

/--
The contents of an object or collection, in braces.
-/
def contents (g : Grammar) : Parser (List Node) := do
  let _ ← advance
  let items ← commaList (isBefore "\x7d") (contentsItem g)
  let _ ← expect "\x7d"
  return items

/--
A variable that is declared where it is passed, as its type and name in front of a comma or closing
parenthesis.
-/
def declaredArgument? : Parser (Option Node) :=
  attempt do
    let type ← anyType
    let first ← here
    let name ← identifier
    if ← atPunct [",", ")"] then
      node (.identifier name.identifierName (.declaration type.text)) first []
    else mismatch

/--
An argument of a call.
-/
def argument (g : Grammar) : Parser Node := do
  if (← current).isIdentifier && (← peek 1).isPunct [":"] then
    let _ ← advance
    let _ ← advance
  if ← atKeyword ["ref", "out", "in"] then
    let _ ← advance
    match ← declaredArgument? with
    | some declared => return declared
    | none => g.expression
  else g.expression

/--
Arguments between brackets, and the bracket that closes them unless the text ends before.
-/
def argumentList (g : Grammar) (closer : String) : Parser (List Node × Option Token) := do
  let _ ← advance
  let arguments ← commaList (isBefore closer) (argument g)
  return (arguments, ← expect closer)

end Parser

end ThreadLint
