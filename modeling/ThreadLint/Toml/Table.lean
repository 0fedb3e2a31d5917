import ThreadLint.Settings.Value

/-!
This module contains the tables of a TOML document while it is read: which of them may still be
added to, and how a key leads through them.
-/

namespace ThreadLint.Toml

/--
How a table came to be: as part of the path of a header, by dotted keys in a part of the document,
or by a header of its own.
-/
inductive Origin where
  | implied
  | dotted (part : Nat)
  | header
  deriving DecidableEq, Repr

/--
What stands under a name: a value, which is complete, a table, or a series of tables of which the
last is still open.
-/
inductive Slot where
  | fixed (value : Value)
  | table (origin : Origin) (slots : List (String × Slot))
  | series (closed : List Value) (slots : List (String × Slot))

/--
The names of an open table.
-/
abbrev Slots := Keyed Slot

mutual

/--
The value of what stands under a name.
-/
def Slot.value : Slot → Value
  | .fixed value => value
  | .table _ slots => .table (entriesOf slots)
  | .series closed slots => .list (closed ++ [.table (entriesOf slots)])

/--
The values under the names of an open table.
-/
def entriesOf : List (String × Slot) → Entries
  | [] => []
  | (name, slot) :: rest => (name, slot.value) :: entriesOf rest

end

namespace Slots

/--
Changes the open table to which a path leads. Tables on the way that are missing are made; of a
series, the last table is meant.
-/
def within (change : Slots → Option Slots) : List String → Slots → Option Slots
  | [], slots => change slots
  | name :: rest, slots =>
    match slots.lookup name with
    | none => do return slots.put name (.table .implied (← within change rest []))
    | some (.table origin inner) => do
      return slots.put name (.table origin (← within change rest inner))
    | some (.series closed inner) => do
      return slots.put name (.series closed (← within change rest inner))
    | some (.fixed _) => none

/--
Opens the table with a name for the keys below its header. That is possible once, and not for a
table that dotted keys made.
-/
def openTable (name : String) (slots : Slots) : Option Slots :=
  match slots.lookup name with
  | none => some (slots.put name (.table .header []))
  | some (.table .implied inner) => some (slots.put name (.table .header inner))
  | _ => none

/--
Opens a new table at the end of the series with a name.
-/
def openNext (name : String) (slots : Slots) : Option Slots :=
  match slots.lookup name with
  | none => some (slots.put name (.series [] []))
  | some (.series closed inner) =>
    some (slots.put name (.series (closed ++ [.table (entriesOf inner)]) []))
  | _ => none

/--
Gives a value to a dotted key in a part of the document. The key may lead through tables that this
part made by dotted keys or that are only implied, and its last name must be new.
-/
def assign (part : Nat) (value : Value) : List String → Slots → Option Slots
  | [], _ => none
  | [name], slots => if slots.has name then none else some (slots.put name (.fixed value))
  | name :: rest, slots =>
    match slots.lookup name with
    | none => do return slots.put name (.table (.dotted part) (← assign part value rest []))
    | some (.table origin inner) =>
      if origin = .implied ∨ origin = .dotted part then do
        return slots.put name (.table (.dotted part) (← assign part value rest inner))
      else none
    | some _ => none

end Slots

end ThreadLint.Toml
