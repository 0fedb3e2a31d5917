import ThreadLint.Source
import ThreadLint.Text.Blank
import ThreadLint.Tree.Access
import ThreadLint.Tree.Place

/-!
This module contains where an `await` may stand and how it is written there, and the pieces of
source text that messages and fixes quote.
-/

namespace ThreadLint

namespace Source

/--
The text of a node.
-/
def textOf (source : Source) (node : Node) : String :=
  source.slice node.extent

/--
The text of a node on one line, cut so that it is not longer than a limit.
-/
def snippet (source : Source) (node : Node) (limit : Int) : String :=
  let text := Text.oneLine (source.textOf node)
  if limit < text.length then
    String.ofList (Text.before text.toList (limit - 3)) ++ "..."
  else text

/--
The length of the snippets in messages.
-/
def snippetLimit : Int :=
  60

end Source

namespace Place

/--
The statements inside which nothing may be awaited.
-/
def noAwaitKeywords : List String :=
  ["lock", "unsafe", "fixed"]

/--
Whether nothing may be awaited at a place, because it is inside a lock or unsafe code of its
function.
-/
def forbidsAwait (place : Place) : Bool :=
  go place.above
where
  go : List Step → Bool
    | [] => false
    | step :: rest =>
      if step.parent.kind.isFunction then step.parent.form.modifiers.contains "unsafe"
      else isNoAwait step.parent.form || go rest
  isNoAwait : Form → Bool
    | .otherStmt keyword => noAwaitKeywords.contains keyword
    | _ => false

/--
Whether something may be awaited at a place: the function around it awaits, and nothing forbids it.
-/
def mayAwait (place : Place) : Bool :=
  (place.function?.any fun function => function.node.isAsync) && !place.forbidsAwait

/--
Whether an `await` in this place needs parentheses, as what stands around it would else bind its
operand first.
-/
def needsParentheses (place : Place) : Bool :=
  match place.above with
  | [] => false
  | step :: _ =>
    match step.parent.form with
    | .memberAccess .. | .elementAccess _ | .callExpr => step.childIndex == 0
    | .unary _ inFront => !inFront
    | .typeTest .. => true
    | _ => false

end Place

namespace Node

/--
Whether an expression can be awaited without parentheses around it.
-/
def isSimpleOperand (node : Node) : Bool :=
  match node.kind with
  | .identifier | .memberAccess | .callExpr | .elementAccess | .paren | .objectCreation
  | .literal => true
  | _ => false

end Node

/--
Source text that awaits an expression, as it is written in a place.
-/
def awaitWritten (expression : String) (place : Place) : String :=
  let text := "await " ++ expression
  if place.needsParentheses then "(" ++ text ++ ")" else text

/--
Source text that awaits an operand, as it is written in a place.
-/
def awaitText (source : Source) (operand : Node) (place : Place) : String :=
  let inner := source.textOf operand
  awaitWritten (if operand.isSimpleOperand then inner else "(" ++ inner ++ ")") place

end ThreadLint
