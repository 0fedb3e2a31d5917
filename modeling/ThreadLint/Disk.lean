import ThreadLint.Fault
import ThreadLint.Keyed
import ThreadLint.Path

/-!
This module contains the directories and files that the program works on, how paths lead to them, and
how texts are read from files and written to them.
-/

namespace ThreadLint

/-! ### Directories and files -/

/--
What stands under a name: a file, or a directory of further names.
-/
inductive Item where
  | file (content : ByteArray)
  | directory (items : List (String × Item))
  deriving Inhabited

namespace Item

/--
Whether an item is a directory.
-/
def isDirectory : Item → Bool
  | directory _ => true
  | file _ => false

/--
The number of bytes that an item takes. A directory takes one block.
-/
def size : Item → Nat
  | file content => content.size
  | directory _ => 4096

/--
What stands at the end of some names below an item.
-/
def below? : List String → Item → Option Item
  | [], item => some item
  | name :: rest, directory items => (items.lookup name).bind (below? rest)
  | _ :: _, file _ => none

/--
Sets what stands at the end of some names in a directory. Directories that are missing on the way
are made.
-/
def putAt (new : Item) : List String → Keyed Item → Keyed Item
  | [], items => items
  | [name], items => items.put name new
  | name :: rest, items =>
    match items.lookup name with
    | some (directory inner) => items.put name (directory (putAt new rest inner))
    | _ => items.put name (directory (putAt new rest []))

/--
Takes away what stands at the end of some names in a directory.
-/
def eraseAt : List String → Keyed Item → Keyed Item
  | [], items => items
  | [name], items => items.erase name
  | name :: rest, items =>
    match items.lookup name with
    | some (directory inner) => items.put name (directory (eraseAt rest inner))
    | _ => items

mutual

/--
The files below an item with the names that lead to them, where the item itself stands below others.
-/
def files (names : List String) : Item → List (List String × ByteArray)
  | file content => [(names, content)]
  | directory items => filesAmong names items

/--
The files below some items with the names that lead to them.
-/
def filesAmong (names : List String) : List (String × Item) → List (List String × ByteArray)
  | [] => []
  | (name, item) :: rest => files (names ++ [name]) item ++ filesAmong names rest

end

end Item

/--
All directories and files, the current directory, and the home directory of the user. Both are
written with a root.
-/
structure Disk where
  items : Keyed Item
  here : Path
  home : Path
  deriving Inhabited

namespace Disk

/--
What stands at the end of some names.
-/
def find? (disk : Disk) (names : List String) : Option Item :=
  Item.below? names (.directory disk.items)

/--
The names that lead to a path from the top. Everything on the way must be a directory; the last name
may be missing.
-/
def resolve (disk : Disk) (path : Path) : Except FileObstacle (List String) :=
  if path.text.toList.contains '\x00' then .error .nullCharacter
  else if Path.textLimit < path.text.utf8ByteSize then .error (.nameTooLong path.text)
  else (disk.here.join path).names.foldlM step []
where
  /-- Goes one name on from a directory. -/
  step (names : List String) (name : String) : Except FileObstacle (List String) :=
    match disk.find? names with
    | some (.directory _) =>
      if name == ".." then .ok names.dropLast
      else if Path.isShortName name then .ok (names ++ [name])
      else .error (.nameTooLong path.text)
    | some (.file _) => .error (.notADirectory path.text)
    | none => .error (.noSuchFile path.text)

/--
What a path leads to, if there is anything.
-/
def item (disk : Disk) (path : Path) : Except FileObstacle Item := do
  match disk.find? (← disk.resolve path) with
  | some item => .ok item
  | none => .error (.noSuchFile path.text)

/--
Whether a path leads to anything.
-/
def has (disk : Disk) (path : Path) : Bool :=
  (disk.item path).toOption.isSome

/--
The disk with other bytes in a file, which is made if it is missing.
-/
def put (disk : Disk) (path : Path) (content : ByteArray) : Disk :=
  match disk.resolve path with
  | .ok names => { disk with items := Item.putAt (.file content) names disk.items }
  | .error _ =>
    { disk with items := Item.putAt (.file content) (disk.here.join path).names disk.items }

/--
The disk without what a path leads to.
-/
def erase (disk : Disk) (path : Path) : Disk :=
  match disk.resolve path with
  | .ok names => { disk with items := Item.eraseAt names disk.items }
  | .error _ => disk

/--
The files below the current directory, by their paths.
-/
def files (disk : Disk) : Keyed ByteArray :=
  match disk.find? disk.here.names with
  | some item => (item.files []).map fun (names, content) => (Path.text ⟨"", names⟩, content)
  | none => []

end Disk

end ThreadLint

namespace ThreadLint.Disk

/-! ### Texts in files -/

/--
The text of a file. It must be there, and it must not take more bytes than a limit allows.
-/
def readText (disk : Disk) (path : Path) (limit : Option Int) : Except AccessFault String :=
  match disk.item path with
  | .error (.noSuchFile _) => fault .notFound
  | .error obstacle => fault obstacle
  | .ok item =>
    match limit with
    | some limit => if limit < item.size then fault (.tooLarge item.size limit) else textOf item
    | none => textOf item
where
  fault {α : Type} (obstacle : FileObstacle) : Except AccessFault α :=
    .error ⟨path.text, obstacle, false⟩
  textOf : Item → Except AccessFault String
    | .directory _ => fault (.isDirectory path.text)
    | .file content =>
      match Text.decode content with
      | .ok text => .ok text
      | .error problem => fault (.encoding problem)

/--
The disk with a text in a file. The file may be new, but its directory may not.
-/
def storeText (disk : Disk) (path : Path) (text : String) : Except AccessFault Disk :=
  match disk.resolve path with
  | .error obstacle => .error ⟨path.text, obstacle, true⟩
  | .ok names =>
    match disk.find? names with
    | some (.directory _) => .error ⟨path.text, .isDirectory path.text, true⟩
    | _ => .ok { disk with items := Item.putAt (.file (Text.encode text)) names disk.items }

/--
The name under which a text is written before it takes the place of a file. The points in its middle
stand for any characters.
-/
def draftName (name : String) : String :=
  "." ++ name ++ "." ++ "........" ++ ".tmp"

/--
The disk with a text in the place of a file. The text is first written under another name, which
must not be too long.
-/
def writeText (disk : Disk) (path : Path) (text : String) : Except AccessFault Disk :=
  match disk.storeText path text with
  | .error fault => .error fault
  | .ok changed =>
    if Path.isShortName (draftName (path.names.getLastD "")) then .ok changed
    else .error ⟨path.text, .nameTooLong path.text, true⟩

end ThreadLint.Disk
