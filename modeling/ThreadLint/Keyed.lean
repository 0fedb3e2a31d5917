/-!
This module contains tables by text keys that keep the order in which their keys came.
-/

namespace ThreadLint

/--
A table by text keys. The operations keep every key single and in its place.
-/
abbrev Keyed (α : Type) := List (String × α)

namespace Keyed

/--
Whether a table has a key.
-/
def has {α : Type} (table : Keyed α) (key : String) : Bool :=
  table.any fun entry => entry.1 == key

/--
Sets what stands under a key: where the key is, or at the end.
-/
def put {α : Type} (table : Keyed α) (key : String) (value : α) : Keyed α :=
  if table.has key then
    table.map fun entry => if entry.1 == key then (key, value) else entry
  else table ++ [(key, value)]

/--
A table with the entries of another on top.
-/
def update {α : Type} (table others : Keyed α) : Keyed α :=
  others.foldl (fun table (key, value) => table.put key value) table

/--
A table without a key.
-/
def erase {α : Type} (table : Keyed α) (key : String) : Keyed α :=
  table.filter fun entry => entry.1 != key

end Keyed

end ThreadLint
