import ThreadLint.Symbol.Entry
import ThreadLint.Tree.Node

/-!
This module contains what a file imports: the namespaces it is in or uses, and the aliases it gives.
-/

namespace ThreadLint

namespace Node

/--
Whether a node takes part in the imports of a file.
-/
def isImport (node : Node) : Bool :=
  node.kind == .usingDirective || node.kind == .namespaceDecl

/--
Whether a node holds imports.
-/
def isNamespace (node : Node) : Bool :=
  node.kind == .namespaceDecl

/--
The children of some nodes take less room than the nodes.
-/
theorem forestSize_children_le (nodes : List Node) :
    forestSize (nodes.flatMap children) + nodes.length ≤ forestSize nodes := by
  induction nodes with
  | nil => simp [forestSize]
  | cons node rest ih =>
    simp only [List.flatMap_cons, forestSize_append, List.length_cons, forestSize, size_eq]
    omega

/--
The using directives and namespaces among the children of some nodes.
-/
def importsBelow (nodes : List Node) : List Node :=
  (nodes.flatMap children).filter isImport

theorem forestSize_importsBelow_lt {nodes : List Node} (h : nodes ≠ []) :
    forestSize ((importsBelow nodes).filter isNamespace) < forestSize nodes := by
  have inner := forestSize_filter_le isNamespace (importsBelow nodes)
  have outer := forestSize_filter_le isImport (nodes.flatMap children)
  have bound := forestSize_children_le nodes
  have positive := List.length_pos_iff.2 h
  unfold importsBelow at inner ⊢
  omega

/--
The using directives and namespaces below some nodes: those among their children, then those among
the children of these namespaces, and so on.
-/
def imports (nodes : List Node) : List Node :=
  if _h : nodes = [] then []
  else importsBelow nodes ++ imports ((importsBelow nodes).filter isNamespace)
termination_by forestSize nodes
decreasing_by exact forestSize_importsBelow_lt _h

end Node

/--
What a file imports. The namespaces are in the order in which names are looked up in them.
-/
structure Imports where
  namespaces : List String
  aliases : List (String × String)
  deriving Repr, Inhabited

namespace Imports

/--
A dotted name and the names that it lies in, the longest one first.
-/
def enclosingNames (name : String) : List String :=
  go (Text.pieces '.' name).reverse
where
  go : List String → List String
    | [] => []
    | last :: front => ".".intercalate (last :: front).reverse :: go front

/--
The namespaces that a directive or declaration brings into view.
-/
def namespacesOf (node : Node) : List String :=
  match node.form with
  | .usingDirective name none _ => [Symbol.normalize name]
  | .usingDirective name (some label) _ => if label.isEmpty then [Symbol.normalize name] else []
  | .namespaceDecl name _ => enclosingNames (Symbol.normalize name)
  | _ => []

/--
The aliases after a directive, given those before it. The last one of a name counts.
-/
def withAlias (aliases : List (String × String)) (node : Node) : List (String × String) :=
  match node.form with
  | .usingDirective name (some label) _ =>
    if label.isEmpty then aliases
    else (label, Symbol.normalize name) :: aliases.filter fun other => other.1 != label
  | _ => aliases

/--
The names without the ones that occurred before.
-/
def distinct (names : List String) : List String :=
  (names.foldl (fun found name => if found.contains name then found else name :: found) []).reverse

/--
The imports of a file.
-/
def ofRoot (root : Node) : Imports :=
  let nodes := Node.imports [root]
  { namespaces := distinct (nodes.flatMap namespacesOf)
    aliases := nodes.foldl withAlias [] }

end Imports

end ThreadLint
