import ThreadLint.Symbol.Table
import ThreadLint.Tree.Node

/-!
This module contains what is known of the declarations of a file: the traits of its types, which are the
tags and capabilities that a type has from its known bases and attributes and inherits from other types
of the file, and its methods that others call, which are handlers of events and of commands and methods
whose result must be awaited.
-/

namespace ThreadLint

/-! ### Methods -/

namespace Node

/--
The name of the method that an expression refers to, if it refers to one: a name, a member, or the
first argument of the delegate that it creates.
-/
def handlerName? : Node → Option String
  | ⟨form, _, _, _, children⟩ =>
    match form with
    | .identifier name _ => some name
    | .memberAccess name .. => some name
    | .objectCreation _ argumentCount =>
      if argumentCount = 0 then none
      else
        match children with
        | handler :: _ => handler.handlerName?
        | [] => none
    | form =>
      if unwrap?.isWrapper form then
        match children with
        | inner :: _ => inner.handlerName?
        | [] => none
      else none

/--
The name that is not empty of the method that an expression refers to.
-/
def handlerNames (expression : Option Node) : List String :=
  match expression.bind handlerName? with
  | some name => if name.isEmpty then [] else [name]
  | none => []

/--
The methods that a node subscribes to an event.
-/
def eventHandlers (node : Node) : List String :=
  match node.form with
  | .assignment op => if op == "+=" then handlerNames node.children[1]? else []
  | _ => []

/--
The methods that a node binds to a command.
-/
def commandHandlers (scope : Scope) (node : Node) : List String :=
  match node.form with
  | .objectCreation (some typeName) argumentCount =>
    let tags := scope.resolve (some typeName) (some .type)
    if argumentCount ≠ 0 ∧ tags.contains .commandHandler then
      handlerNames node.children.head?
    else []
  | _ => []

/--
The name of a method whose result must be awaited.
-/
def asyncMethods (node : Node) : List String :=
  match node.form with
  | .methodDecl head =>
    match head.returnType with
    | some (typeName, _) =>
      if !head.isConstructor && Symbol.isAwaitable typeName then [head.name] else []
    | none => []
  | _ => []

end Node

/-! ### Types -/

/--
What is known of a type.
-/
structure Traits where
  tags : List SymbolTag
  capabilities : List Capability
  deriving Repr, Inhabited

namespace Traits

/--
Nothing known.
-/
def none : Traits :=
  ⟨[], []⟩

/--
A list with those items of another that it does not hold yet.
-/
def joined {α : Type} [BEq α] (first second : List α) : List α :=
  first ++ second.filter fun item => !first.contains item

/--
The traits of two types together.
-/
def union (first second : Traits) : Traits :=
  ⟨joined first.tags second.tags, joined first.capabilities second.capabilities⟩

/--
Whether a type has all traits of another.
-/
def includes (outer inner : Traits) : Bool :=
  inner.tags.all outer.tags.contains && inner.capabilities.all outer.capabilities.contains

/--
The traits that a type hands down. Exports are not inherited.
-/
def inheritable (traits : Traits) : Traits :=
  { traits with tags := traits.tags.filter (· != .mefExport) }

/--
The traits of a known symbol.
-/
def ofEntry (entry : Option SymbolEntry) : Traits :=
  match entry with
  | some entry => ⟨entry.tags, entry.capabilities⟩
  | Option.none => none

/--
The known bases of a type, each one or nothing.
-/
def bases (scope : Scope) (head : TypeHead) : List (Option SymbolEntry) :=
  head.bases.map fun base => scope.lookup (some base.1) (some .type)

/--
The tags that an attribute brings with it.
-/
def attributeTags (scope : Scope) (node : Node) : List SymbolTag :=
  match node.form with
  | .attributeUse name .. =>
    match scope.lookupAttribute name with
    | some entry => entry.tags
    | Option.none => []
  | _ => []

/--
The traits that a type has from its known bases and from its attributes.
-/
def direct (scope : Scope) (node : Node) (head : TypeHead) : Traits :=
  let inherited := (bases scope head).foldl (fun traits base => traits.union (ofEntry base)) none
  let attributes := node.childrenOf .attributeUse
  attributes.foldl (fun traits a => traits.union ⟨attributeTags scope a, []⟩) inherited

end Traits

/--
The traits of the types of a file by their names.
-/
abbrev TypeTable := List (String × Traits)

namespace TypeTable

/--
Sets the traits of a type.
-/
def put (table : TypeTable) (name : String) (traits : Traits) : TypeTable :=
  if table.any (·.1 == name) then
    table.map fun entry => if entry.1 == name then (name, traits) else entry
  else table ++ [(name, traits)]

/--
The type declarations of a tree with their heads.
-/
def declarations (root : Node) : List (Node × TypeHead) :=
  root.walk.filterMap fun node =>
    match node.form with
    | .classDecl head => some (node, head)
    | _ => none

/--
The name under which a base may be a type of the file.
-/
def baseName (written : String) : String :=
  Text.lastSegment (Symbol.normalize written)

/--
The traits of a type after it has taken over those of its bases.
-/
def inherit (table : TypeTable) (head : TypeHead) : Traits :=
  head.bases.foldl (fun traits base =>
    match table.lookup (baseName base.1) with
    | some inherited => traits.union inherited.inheritable
    | none => traits) ((table.lookup head.name).getD Traits.none)

/--
One round of inheritance, in the order of the declarations, and whether it changed anything.
-/
def round (table : TypeTable) (heads : List TypeHead) : TypeTable × Bool :=
  heads.foldl (fun (table, changed) head =>
    let before := (table.lookup head.name).getD Traits.none
    let after := table.inherit head
    (table.put head.name after, changed || !before.includes after)) (table, false)

/--
Rounds of inheritance until nothing changes, so many at most.
-/
def settle (heads : List TypeHead) : Nat → TypeTable → TypeTable
  | 0, table => table
  | rounds + 1, table =>
    match table.round heads with
    | (table, true) => settle heads rounds table
    | (table, false) => table

/--
The traits that the types of a file have by themselves. Of several declarations of one name the last
one counts.
-/
def ofDeclarations (scope : Scope) (declarations : List (Node × TypeHead)) : TypeTable :=
  declarations.foldl (fun table (node, head) =>
    table.put head.name (Traits.direct scope node head)) []

/--
The traits of the types of a file. Every round but the last one adds a tag or a capability to some
type, so there are no more rounds than there are places for these.
-/
def ofRoot (scope : Scope) (root : Node) : TypeTable :=
  let declarations := declarations root
  settle (declarations.map Prod.snd) (9 * declarations.length + 1)
    (ofDeclarations scope declarations)

end TypeTable

end ThreadLint
