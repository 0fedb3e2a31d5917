import ThreadLint.Tree.Node

/-!
This module contains the places of a syntax tree: nodes together with the way back to the root.
-/

namespace ThreadLint

/--
One step of the way from a node to the root: its parent, and which child of it the way came from.
-/
structure Step where
  parent : Node
  childIndex : Nat
  deriving Inhabited

/--
A node in its tree, with the way from it to the root.
-/
structure Place where
  node : Node
  above : List Step
  deriving Inhabited

namespace Place

mutual

/--
The places of a tree in pre-order, given the way from its root upwards.
-/
def below (above : List Step) : Node → List Place
  | node@⟨_, _, _, _, children⟩ => ⟨node, above⟩ :: forestBelow node above 0 children

/--
The places of the trees that are the children of a node from some child on.
-/
def forestBelow (parent : Node) (above : List Step) (childIndex : Nat) : List Node → List Place
  | [] => []
  | child :: rest =>
    below (⟨parent, childIndex⟩ :: above) child ++
      forestBelow parent above (childIndex + 1) rest

end

/--
The places of a tree in pre-order.
-/
def all (root : Node) : List Place :=
  below [] root

/--
The place of the parent.
-/
def parent? (place : Place) : Option Place :=
  match place.above with
  | [] => none
  | step :: rest => some ⟨step.parent, rest⟩

/--
The places on the way to the root, the parent first.
-/
def ancestors (place : Place) : List Place :=
  go place.above
where
  go : List Step → List Place
    | [] => []
    | step :: rest => ⟨step.parent, rest⟩ :: go rest

/--
The nearest place on the way to the root whose node is of a sort.
-/
def enclosing? (place : Place) (sort : NodeKind → Bool) : Option Place :=
  place.ancestors.find? fun ancestor => sort ancestor.node.kind

/--
The function that a place is in: the nearest method, local function, lambda or property around it.
-/
def function? (place : Place) : Option Place :=
  place.enclosing? NodeKind.isFunction

/--
The type that a place is in.
-/
def type? (place : Place) : Option Place :=
  place.enclosing? (· == .classDecl)

/--
The children of the parent that come before a place.
-/
def precedingSiblings (place : Place) : List Node :=
  match place.above with
  | [] => []
  | step :: _ => step.parent.children.take step.childIndex

/--
The children of the parent that come behind a place.
-/
def followingSiblings (place : Place) : List Node :=
  match place.above with
  | [] => []
  | step :: _ => step.parent.children.drop (step.childIndex + 1)

/--
Whether a place is what a call calls.
-/
def isCallee (place : Place) : Bool :=
  match place.above with
  | [] => false
  | step :: _ => step.parent.kind == .callExpr && step.childIndex == 0

/--
Whether a statement that runs before a place in its function passes a test: one that comes before
the way to the place in a block around it. The search goes no further than the function.
-/
def precededBy (place : Place) (test : Node → Bool) : Bool :=
  go place.above
where
  go : List Step → Bool
    | [] => false
    | step :: rest =>
      (step.parent.kind == .block && (step.parent.children.take step.childIndex).any test) ||
        (!step.parent.kind.isFunction && go rest)

end Place

end ThreadLint
