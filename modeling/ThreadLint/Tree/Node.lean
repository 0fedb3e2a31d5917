import ThreadLint.Tree.Form

/-!
This module contains the syntax tree, the two orders of its nodes, which are of all of them or only of
those that run when the first one does, and the walks that visit the nodes in these orders. A walk
keeps the nodes that are still to be visited on a stack, takes the topmost one off, and puts the
children of it that it enters on top.
-/

namespace ThreadLint

/--
A node of a syntax tree. The designation is the variable into which a pattern takes the value that
it matches.
-/
structure Node where
  form : Form
  extent : Extent
  trivia : String
  designation : Option String
  children : List Node

namespace Node

/--
A node of the empty text.
-/
def empty : Node :=
  ⟨.compilationUnit, ⟨0, 0⟩, "", none, []⟩

instance : Inhabited Node := ⟨empty⟩

/--
The kind of a node.
-/
def kind (node : Node) : NodeKind :=
  node.form.kind

/--
The children of one kind.
-/
def childrenOf (node : Node) (kind : NodeKind) : List Node :=
  node.children.filter (·.kind == kind)

mutual

/--
The nodes of a tree, each one in front of its children.
-/
def preorder : Node → List Node
  | node@⟨_, _, _, _, children⟩ => node :: forestPreorder children

/--
The nodes of several trees, one tree after the other.
-/
def forestPreorder : List Node → List Node
  | [] => []
  | node :: rest => node.preorder ++ forestPreorder rest

end

mutual

/--
The number of nodes of a tree.
-/
def size : Node → Nat
  | ⟨_, _, _, _, children⟩ => 1 + forestSize children

/--
The number of nodes of several trees.
-/
def forestSize : List Node → Nat
  | [] => 0
  | node :: rest => node.size + forestSize rest

end

theorem size_eq (node : Node) : node.size = 1 + forestSize node.children := by
  cases node; rfl

theorem forestSize_append (first second : List Node) :
    forestSize (first ++ second) = forestSize first + forestSize second := by
  induction first with
  | nil => simp [forestSize]
  | cons node rest ih => simp [forestSize, ih]; omega

theorem forestSize_filter_le (test : Node → Bool) (nodes : List Node) :
    forestSize (nodes.filter test) ≤ forestSize nodes := by
  induction nodes with
  | nil => simp [forestSize]
  | cons node rest ih =>
    by_cases h : test node <;> simp [h, forestSize] <;> omega

/--
Whether a node holds code that does not run where it is written.
-/
def isDeferred (node : Node) : Bool :=
  node.kind == .lambda || node.kind == .methodDecl

mutual

/--
The nodes that run when a node does: those of its tree, less what stands inside lambdas and local
functions below it.
-/
def localPreorder : Node → List Node
  | node@⟨_, _, _, _, children⟩ => node :: forestLocalPreorder children

/--
The nodes that run when several nodes do, if none of these is a lambda or local function.
-/
def forestLocalPreorder : List Node → List Node
  | [] => []
  | node :: rest =>
    if node.isDeferred then forestLocalPreorder rest
    else node.localPreorder ++ forestLocalPreorder rest

end

/-! ### Walks -/

/--
A stack with the children of a node that are entered on top of it. They are put there from the last
one on, so that the first one is visited next.
-/
def pushed (enters : Node → Bool) (children stack : List Node) : List Node :=
  children.reverse.foldl (fun stack child => if enters child then child :: stack else stack) stack

theorem pushed_eq (enters : Node → Bool) (children stack : List Node) :
    pushed enters children stack = children.filter enters ++ stack := by
  unfold pushed
  rw [List.foldl_reverse]
  induction children with
  | nil => rfl
  | cons child rest ih =>
    rw [List.foldr_cons, ih, List.filter_cons]
    split
    . rw [List.cons_append]
    . rfl

theorem forestSize_pushed_lt (enters : Node → Bool) (node : Node) (stack : List Node) :
    forestSize (pushed enters node.children stack) < forestSize (node :: stack) := by
  have := forestSize_filter_le enters node.children
  rw [pushed_eq, forestSize_append, forestSize, size_eq]
  omega

/--
The nodes that are visited from a stack on.
-/
def visit (enters : Node → Bool) (stack : List Node) : List Node :=
  match stack with
  | [] => []
  | node :: rest => node :: visit enters (pushed enters node.children rest)
termination_by forestSize stack
decreasing_by exact forestSize_pushed_lt enters node rest

/--
The nodes of a tree in the order of a walk.
-/
def walk (node : Node) : List Node :=
  visit (fun _ => true) [node]

/--
The nodes in the order of a walk that does not go into lambdas and local functions.
-/
def walkLocal (node : Node) : List Node :=
  visit (fun child => !child.isDeferred) [node]

/-! ### Expressions -/

/--
The dotted name of an expression: a call has the name of what it calls, and `this` and `base` add
nothing to a name.
-/
def dottedName? : Node → Option String
  | ⟨.identifier name _, _, _, _, _⟩ => if name = "this" ∨ name = "base" then none else some name
  | ⟨.memberAccess name _ _ _, _, _, _, receiver :: _⟩ =>
    match receiver.dottedName? with
    | some front => if front.isEmpty then some name else some (front ++ "." ++ name)
    | none => some name
  | ⟨.memberAccess name _ _ _, _, _, _, []⟩ => some name
  | ⟨.callExpr, _, _, _, callee :: _⟩ => callee.dottedName?
  | _ => none

/--
The expression inside parentheses, casts, `as` conversions, `await` and the operator `!` behind an
operand. There is none inside empty parentheses.
-/
def unwrap? : Node → Option Node
  | node@⟨form, _, _, _, children⟩ =>
    if isWrapper form then
      match children with
      | inner :: _ => inner.unwrap?
      | [] => none
    else some node
where
  isWrapper : Form → Bool
    | .paren _ | .cast _ | .await => true
    | .typeTest op _ _ => op == "as"
    | .unary op inFront => op == "!" && !inFront
    | _ => false

end Node

end ThreadLint
