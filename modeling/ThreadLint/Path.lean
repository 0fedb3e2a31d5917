import ThreadLint.Text.Segment

/-!
This module contains paths of files and directories: where they start and the names that lead on
from there.
-/

namespace ThreadLint

/--
A path. One without a root starts at the current directory.
-/
structure Path where
  root : String := ""
  names : List String := []
  deriving DecidableEq, Repr, Inhabited

namespace Path

/--
The root that a written path starts with. Two slashes are a root of their own, and more are as good
as one.
-/
def rootOf (text : String) : String :=
  match (text.toList.takeWhile (· == '/')).length with
  | 0 => ""
  | 2 => "//"
  | _ => "/"

/--
The path that is written as some text. Names that are empty or a single point lead nowhere.
-/
def ofString (text : String) : Path :=
  ⟨rootOf text, (Text.pieces '/' text).filter fun name => !name.isEmpty && name != "."⟩

/--
The written form of a path.
-/
def text (path : Path) : String :=
  if path.root.isEmpty && path.names.isEmpty then "."
  else path.root ++ "/".intercalate path.names

/--
The path that a path leads to from another one.
-/
def join (path other : Path) : Path :=
  if other.root.isEmpty then ⟨path.root, path.names ++ other.names⟩ else other

/--
The greatest number of bytes in a name.
-/
def nameLimit : Nat :=
  255

/--
The greatest number of bytes in the written form of a path.
-/
def textLimit : Nat :=
  4095

/--
Whether a name has so few bytes that a file can have it.
-/
def isShortName (name : String) : Bool :=
  decide (name.utf8ByteSize ≤ nameLimit)

/--
Whether a name is hidden. The names that stand for a directory itself and the one above are not.
-/
def isHiddenName (name : String) : Bool :=
  Text.startsWith name "." && name != "." && name != ".."

end Path

end ThreadLint
