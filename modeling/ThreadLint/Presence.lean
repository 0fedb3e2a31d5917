import ThreadLint.Text.Segment
import ThreadLint.Tree.Access

/-!
This module contains how code treats a variable that may be null: where it checks the variable,
takes it for present, or gives it a new value, and which of these comes first.
-/

namespace ThreadLint

/--
What code does with a variable that may be null.
-/
inductive Use where
  | check
  | assign
  | dereference
  deriving DecidableEq, Repr, Inhabited

/--
The word for a use.
-/
def Use.name : Use → String
  | check => "check"
  | assign => "assign"
  | dereference => "deref"

namespace Node

/--
The calls that assert that an argument is not null.
-/
def presenceAssertions : List String :=
  ["Assumes.Present", "Assumes.NotNull", "Requires.NotNull", "Debug.Assert", "Trace.Assert",
   "ArgumentNullException.ThrowIfNull", "Verify.Operation", "Validate.IsNotNull"]

/--
Whether a call asserts that one of its arguments is not null.
-/
def isPresenceAssertion (call : Node) : Bool :=
  let target := (call.children.head?.bind dottedName?).getD ""
  presenceAssertions.any fun assertion =>
    target == assertion || Text.endsWith target ("." ++ assertion)

/--
Whether one of the first and the last part of a node is the name and the other one is null.
-/
def comparesToNull (node : Node) (name : String) : Bool :=
  match node.children.head?, node.children.getLast? with
  | some left, some right =>
    (left.isName name && right.isNull) || (right.isName name && left.isNull)
  | _, _ => false

/--
Whether the first part of a node is the name.
-/
def beginsWithName (node : Node) (name : String) : Bool :=
  node.children.head?.any (·.isName name)

/--
Whether a node itself checks that a variable is present.
-/
def checksPresence (node : Node) (name : String) : Bool :=
  match node.form with
  | .binary op =>
    if op == "==" || op == "!=" then node.comparesToNull name
    else op == "??" && node.beginsWithName name
  | .typeTest op .. => op == "is" && node.beginsWithName name
  | .callExpr => node.isPresenceAssertion && node.arguments.any (·.isName name)
  | .assignment op => op == "??=" && node.beginsWithName name
  | _ => false

/--
Whether a node itself takes a variable for present.
-/
def dereferences (node : Node) (name : String) : Bool :=
  match node.form with
  | .memberAccess _ _ isConditional _ => !isConditional && node.beginsWithName name
  | .elementAccess isConditional => !isConditional && node.beginsWithName name
  | .callExpr =>
    match node.children.head? with
    | some ⟨.identifier callee _, _, _, _, _⟩ => callee == name
    | _ => false
  | _ => false

/--
Whether a node itself gives a variable a new value.
-/
def reassigns (node : Node) (name : String) : Bool :=
  match node.form with
  | .assignment op => op == "=" && node.beginsWithName name
  | _ => false

/--
What a node itself does with a variable.
-/
def use? (node : Node) (name : String) : Option Use :=
  if node.checksPresence name then some .check
  else if node.reassigns name then some .assign
  else if node.dereferences name then some .dereference
  else none

/--
The first use of a variable in some statements, and the node that uses it.
-/
def firstUse? (statements : List Node) (name : String) : Option (Use × Node) :=
  (statements.flatMap walk).findSome? fun node => (node.use? name).map fun use => (use, node)

end Node

end ThreadLint
