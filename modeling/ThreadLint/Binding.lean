import ThreadLint.Binding.Traits
import ThreadLint.Binding.Imports
import ThreadLint.Tree.Place

/-!
This module contains the binding of a file: what its names stand for. Rules ask the binding for the
symbol and the tags of a node, and never resolve names themselves.
-/

namespace ThreadLint

/--
What is known of the names of a file.
-/
structure Binding where
  scope : Scope
  eventHandlers : List String
  commandHandlers : List String
  asyncMethods : List String
  types : TypeTable
  deriving Inhabited

namespace Binding

/--
The binding of a tree. Methods of the file that return something to await count as such wherever
they are called by their plain name.
-/
def ofRoot (root : Node) (table : SymbolTable) : Binding :=
  let imports := Imports.ofRoot root
  let nodes := root.walk
  let asyncMethods := Imports.distinct (nodes.flatMap Node.asyncMethods)
  let scope : Scope :=
    { table := table
      namespaces := imports.namespaces
      aliases := imports.aliases
      locals := asyncMethods.map fun name => (name, [.asyncEntryPoint]) }
  { scope := scope
    eventHandlers := Imports.distinct (nodes.flatMap Node.eventHandlers)
    commandHandlers := Imports.distinct (nodes.flatMap (Node.commandHandlers scope))
    asyncMethods := asyncMethods
    types := TypeTable.ofRoot scope root }

/--
The traits of a type of the file.
-/
def traits (binding : Binding) (head : TypeHead) : Traits :=
  (binding.types.lookup head.name).getD Traits.none

/--
The name by which a node refers to a symbol: what a call calls, or the member that is read.
-/
def target? (node : Node) (isCallee : Bool) : Option String :=
  match node.form with
  | .callExpr => node.children.head?.bind Node.dottedName?
  | .memberAccess .. => if isCallee then none else node.dottedName?
  | _ => none

/--
The symbol that a node refers to: an attribute, a call, or a member that is read.
-/
def symbol? (binding : Binding) (node : Node) (isCallee : Bool) : Option SymbolEntry :=
  match node.form with
  | .attributeUse name .. => binding.scope.lookupAttribute name
  | .callExpr => binding.scope.lookup (target? node isCallee) (some .method)
  | .memberAccess .. =>
    if isCallee then none else binding.scope.lookup (target? node isCallee) (some .property)
  | _ => none

/--
The tags of a method of the file: whether its result is to be awaited, and whether it handles a
command.
-/
def methodTags (binding : Binding) (head : MethodHead) : List SymbolTag :=
  (if binding.asyncMethods.contains head.name && !head.isConstructor then [.asyncEntryPoint]
    else []) ++
    (if binding.commandHandlers.contains head.name then [.commandHandler] else [])

/--
The tags of a call.
-/
def callTags (binding : Binding) (call : Node) : List SymbolTag :=
  binding.scope.resolve (target? call false) (some .method)

/--
The tags of a node.
-/
def tags (binding : Binding) (node : Node) (isCallee : Bool) : List SymbolTag :=
  match node.form with
  | .classDecl head => (binding.traits head).tags
  | .methodDecl head => binding.methodTags head
  | .attributeUse name .. =>
    match binding.scope.lookupAttribute name with
    | some entry => entry.tags
    | none => []
  | .callExpr => binding.callTags node
  | .memberAccess .. =>
    if isCallee then [] else binding.scope.resolve (target? node isCallee) (some .property)
  | .objectCreation (some typeName) _ => binding.scope.resolve (some typeName) (some .type)
  | .assignment _ =>
    binding.scope.resolve (node.children.head?.bind Node.dottedName?) (some .property)
  | _ => []

/--
The tags of the node at a place.
-/
def tagsAt (binding : Binding) (place : Place) : List SymbolTag :=
  binding.tags place.node place.isCallee

/--
The symbol that the node at a place refers to.
-/
def symbolAt? (binding : Binding) (place : Place) : Option SymbolEntry :=
  binding.symbol? place.node place.isCallee

/--
Whether a node is a call with a tag.
-/
def isCallTagged (binding : Binding) (tag : SymbolTag) (node : Node) : Bool :=
  node.kind == .callExpr && (binding.callTags node).contains tag

/--
Whether a node makes a call with a tag when it runs.
-/
def makesCallTagged (binding : Binding) (tag : SymbolTag) (node : Node) : Bool :=
  !node.isDeferred && node.walkLocal.any (binding.isCallTagged tag)

/--
Whether a method of the file handles an event.
-/
def handlesEvent (binding : Binding) (head : MethodHead) : Bool :=
  binding.eventHandlers.contains head.name

end Binding

end ThreadLint
