import ThreadLint.Grammar.Declaration
import ThreadLint.Token.Tokenize

/-!
This module contains the grammar of the source language and the syntax tree of a text. Text that is
cut short has a tree too: brackets that are still open at the end of the text are closed there, and
each of them is reported as a recovery.
-/

namespace ThreadLint

namespace Grammar

/--
A grammar whose constructs hold those of another.
-/
def layer (g : Grammar) : Grammar where
  expression := Parser.expression g
  operand := Parser.operand g
  operation := Parser.operation g
  pattern := Parser.pattern g
  contents := Parser.contents g
  statement := Parser.statement g
  embedded := Parser.embedded g
  members := Parser.members g

/--
The grammar of constructs with so many levels of constructs inside at most.
-/
def ofDepth : Nat → Grammar
  | 0 => exhausted
  | depth + 1 => layer (ofDepth depth)

end Grammar

/--
An opening bracket that nothing closes, and where it stands.
-/
structure Recovery where
  opener : Token
  span : Span

/--
The wording of a recovery.
-/
def Recovery.message (recovery : Recovery) : String :=
  Text.quoted recovery.opener.text ++ " opened at line " ++ toString recovery.span.startAt.line ++
    ", column " ++ toString recovery.span.startAt.column ++ " is not closed before end of file"

/--
The syntax tree of a text.
-/
structure Parsed where
  source : Source
  root : Node
  recoveries : List Recovery

namespace Parsed

/--
The recovery from an opening bracket that nothing closes.
-/
def recovery (source : Source) (opener : Token) : Except Fault Recovery := do
  return ⟨opener, ← source.spanOf opener.extent⟩

/--
The members of a file with the given tokens. Every level of constructs takes a token, so there are
no more levels than tokens.
-/
def members (tokens : Array Token) : Except Stop (List Node) :=
  (Parser.members (Grammar.ofDepth tokens.size) none tokens 0).map Prod.fst

/--
The syntax tree of a text. There is none if literals, comments or brackets are malformed, or if an
attribute of the whole file is.
-/
def ofSource (source : Source) : Except Fault Parsed := do
  let tokens ← (Token.tokenize source).mapError Fault.syntaxError
  let unclosed ← (Token.unclosed source tokens).mapError Fault.syntaxError
  let recoveries ← unclosed.mapM (recovery source)
  let members ← (members tokens.toArray).mapError fun _ => Fault.attributeTarget
  return ⟨source, ⟨.compilationUnit, ⟨0, source.length⟩, "", none, members⟩, recoveries⟩

end Parsed

/--
The syntax tree of a text with the path it came from. Faults name the path.
-/
def parse (text : String) (path : Option String) : Except Fault Parsed :=
  match Parsed.ofSource (Source.ofString text path) with
  | .error (.syntaxError fault) => .error (.syntaxError { fault with path := namedPath path })
  | result => result
where
  namedPath : Option String → Option String
    | some path => if path.isEmpty then none else some path
    | none => none

end ThreadLint
