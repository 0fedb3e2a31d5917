import ThreadLint.Symbol.Registry

/-!
This module contains the symbol table and the view of it that one file has through its namespaces
and aliases. A name that the table does not know has no entry and no tags.
-/

namespace ThreadLint

/--
The known symbols: those that match by their whole name, of which each name has one, and those that
match as suffixes, the most specific one first.
-/
structure SymbolTable where
  exact : List SymbolEntry
  suffixes : List SymbolEntry
  deriving Repr, Inhabited

namespace SymbolTable

/--
Adds an entry, or replaces the one of the same name where it stands.
-/
def insertExact (entries : List SymbolEntry) (entry : SymbolEntry) : List SymbolEntry :=
  if entries.any (·.name == entry.name) then
    entries.map fun other => if other.name == entry.name then entry else other
  else entries ++ [entry]

/--
The number of dots in a name.
-/
def dots (name : String) : Nat :=
  name.toList.count '.'

/--
The order of entries that match as suffixes: those with more dots come first, then the longer ones,
then the order of names.
-/
def precedes (entry other : SymbolEntry) : Bool :=
  if dots entry.name ≠ dots other.name then decide (dots other.name < dots entry.name)
  else if entry.name.length ≠ other.name.length then
    decide (other.name.length < entry.name.length)
  else decide (entry.name ≤ other.name)

/--
The table of some entries. Of two entries with the same whole name the later one counts.
-/
def ofEntries (entries : List SymbolEntry) : SymbolTable where
  exact := (entries.filter fun entry => !entry.isSuffix).foldl insertExact []
  suffixes := (entries.filter (·.isSuffix)).mergeSort precedes

/--
The table of the built-in symbols and some others.
-/
def builtin (others : List SymbolEntry) : SymbolTable :=
  ofEntries (Symbol.builtin ++ others)

/--
The number of entries.
-/
def size (table : SymbolTable) : Nat :=
  table.exact.length + table.suffixes.length

/--
All entries in the order of their names.
-/
def entries (table : SymbolTable) : List SymbolEntry :=
  (table.exact ++ table.suffixes).mergeSort fun entry other => decide (entry.name ≤ other.name)

/--
The entry with a whole name, if it is of the kind.
-/
def named? (table : SymbolTable) (name : String) (kind : Option SymbolKind) : Option SymbolEntry :=
  (table.exact.find? (·.name == name)).filter (·.isOfKind kind)

/--
The entry for a name: the one with that whole name, else the one whose whole name it is inside the
first namespace that has one, else the most specific one that it ends in.
-/
def lookup (table : SymbolTable) (name : String) (kind : Option SymbolKind)
    (namespaces : List String) : Option SymbolEntry :=
  let name := Symbol.normalize name
  if name.isEmpty then none
  else
    (table.named? name kind).or <|
      (namespaces.findSome? fun space => table.named? (space ++ "." ++ name) kind).or <|
        table.suffixes.find? fun entry => entry.isOfKind kind && entry.matchesSuffix name

/--
The tags of a name.
-/
def resolve (table : SymbolTable) (name : String) (kind : Option SymbolKind) : List SymbolTag :=
  match table.lookup name kind [] with
  | some entry => entry.tags
  | none => []

end SymbolTable

/--
The symbol table as one file sees it. The methods that the file declares itself have tags of their
own.
-/
structure Scope where
  table : SymbolTable
  namespaces : List String
  aliases : List (String × String)
  locals : List (String × List SymbolTag)
  deriving Repr, Inhabited

namespace Scope

/--
A name with the alias in front replaced by what it stands for.
-/
def expandAlias (scope : Scope) (name : String) : String :=
  match scope.aliases.lookup (Text.beforeFirst '.' name) with
  | none => name
  | some target =>
    let rest := Text.afterFirst '.' name
    if rest.isEmpty then target else target ++ "." ++ rest

/--
The entry for a name, if there is a name.
-/
def lookup (scope : Scope) (name : Option String) (kind : Option SymbolKind) :
    Option SymbolEntry :=
  match name with
  | none => none
  | some name =>
    if name.isEmpty then none
    else scope.table.lookup (scope.expandAlias (Symbol.normalize name)) kind scope.namespaces

/--
The entry for an attribute, which may be written without the last word of its name.
-/
def lookupAttribute (scope : Scope) (name : String) : Option SymbolEntry :=
  let name := Symbol.normalize name
  let whole := scope.lookup (some name) (some .attributeType)
  if Text.endsWith name "Attribute" then whole
  else (scope.lookup (some (name ++ "Attribute")) (some .attributeType)).or whole

/--
The tags of a name, if there is a name. A method of the file itself comes before the table.
-/
def resolve (scope : Scope) (name : Option String) (kind : Option SymbolKind) : List SymbolTag :=
  match name with
  | none => []
  | some name =>
    if name.isEmpty then []
    else
      let name := Symbol.normalize name
      let own := if kind = none ∨ kind = some .method then scope.locals.lookup name else none
      match own with
      | some tags => tags
      | none =>
        match scope.lookup (some name) kind with
        | some entry => entry.tags
        | none => []

end Scope

end ThreadLint
