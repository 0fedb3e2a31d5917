/-!
This module contains what the fields of a template can stand for besides texts: the sorts of values,
which are members of the values themselves.
-/

namespace ThreadLint

/--
The sorts of the values that a field can stand for, and the sort of all of them.
-/
inductive ValueSort where
  | any
  | text
  | sort
  | series
  | nothing
  deriving DecidableEq, Repr, Inhabited

namespace ValueSort

/--
The name of a sort.
-/
def name : ValueSort → String
  | any => "object"
  | text => "str"
  | sort => "type"
  | series => "tuple"
  | nothing => "NoneType"

/--
The place of definition of every sort.
-/
def home : String :=
  "builtins"

/--
The lines of the description of a sort.
-/
def descriptionLines : ValueSort → List String
  | any =>
    ["The base class of the class hierarchy.", "",
     "When called, it accepts no arguments and returns a new featureless",
     "instance that has no instance attributes and cannot be given any.", ""]
  | text =>
    ["str(object='') -> str", "str(bytes_or_buffer[, encoding[, errors]]) -> str", "",
     "Create a new string object from the given object. If encoding or",
     "errors is specified, then the object must expose a data buffer",
     "that will be decoded using the given encoding and error handler.",
     "Otherwise, returns the result of object.__str__() (if defined)", "or repr(object).",
     "encoding defaults to sys.getdefaultencoding().", "errors defaults to 'strict'."]
  | sort =>
    ["type(object) -> the object's type", "type(name, bases, dict, **kwds) -> a new type"]
  | series =>
    ["Built-in immutable sequence.", "",
     "If no argument is given, the constructor returns an empty tuple.",
     "If iterable is specified the tuple is initialized from iterable's items.", "",
     "If the argument is a tuple, the return value is the same object."]
  | nothing => []

/--
The description of a sort, if it has one.
-/
def description? (named : ValueSort) : Option String :=
  match named.descriptionLines with
  | [] => none
  | lines => some ("\n".intercalate lines)

/--
The sort right above a sort.
-/
def base? : ValueSort → Option ValueSort
  | any => none
  | _ => some any

/--
The written form of a sort.
-/
def written (named : ValueSort) : String :=
  "<class '" ++ named.name ++ "'>"

end ValueSort

/--
What a field of a template can stand for: a text, the sort of a value, several sorts, or nothing.
-/
inductive FieldValue where
  | text (cs : List Char)
  | sort (named : ValueSort)
  | series (sorts : List ValueSort)
  | nothing
  deriving DecidableEq, Repr, Inhabited

namespace FieldValue

/--
The sort of a value.
-/
def sortOf : FieldValue → ValueSort
  | text _ => .text
  | sort _ => .sort
  | series _ => .series
  | nothing => .nothing

/--
What a value shows.
-/
def shown : FieldValue → String
  | text cs => String.ofList cs
  | sort named => named.written
  | series [named] => "(" ++ named.written ++ ",)"
  | series sorts => "(" ++ ", ".intercalate (sorts.map ValueSort.written) ++ ")"
  | nothing => "None"

/--
A text as a value.
-/
def ofString (words : String) : FieldValue :=
  text words.toList

/--
The member of a value with a name.
-/
def member? (value : FieldValue) (name : String) : Option FieldValue :=
  match value, name with
  | _, "__class__" => some (sort value.sortOf)
  | sort named, "__doc__" => some (described named)
  | _, "__doc__" => some (described value.sortOf)
  | sort named, "__name__" | sort named, "__qualname__" => some (ofString named.name)
  | sort _, "__module__" => some (ofString ValueSort.home)
  | sort named, "__base__" => some (named.base?.elim nothing sort)
  | sort named, "__bases__" => some (series named.base?.toList)
  | sort named, "__mro__" => some (series (named :: named.base?.toList))
  | _, _ => none
where
  described (named : ValueSort) : FieldValue :=
    named.description?.elim nothing ofString

end FieldValue

end ThreadLint
