import ThreadLint.Disk
import ThreadLint.Glob
import ThreadLint.Text.Case

/-!
This module contains which files a run looks at: those that are named, and those below directories
that pass a filter.
-/

namespace ThreadLint

/--
Which files below a directory count.
-/
structure FileFilter where
  extensions : List String := [".cs"]
  excludePatterns : List String := []
  allowHidden : Bool := false
  deriving DecidableEq, Repr, Inhabited

namespace FileFilter

/--
Whether a name has one of the extensions. Letter case does not matter.
-/
def hasExtension (filter : FileFilter) (name : String) : Bool :=
  filter.extensions.any fun ending => Text.endsWith (Text.lower name) (Text.lower ending)

/--
Whether names lead through something hidden that does not count.
-/
def isHidden (filter : FileFilter) (names : List String) : Bool :=
  !filter.allowHidden && names.any Path.isHiddenName

/--
Whether a pattern stands for some names with slashes between them, from the first name on or from a
later one.
-/
def isMatch (pattern : String) (names : List String) : Bool :=
  let path := "/".intercalate names
  Glob.isMatch pattern path || Glob.isMatch ("*/" ++ pattern) path

/--
Whether a file is excluded: a pattern stands for the names that lead to it or for its own name.
-/
def excludesFile (filter : FileFilter) (names : List String) : Bool :=
  filter.excludePatterns.any fun pattern =>
    isMatch pattern names || Glob.isMatch pattern (names.getLastD "")

/--
The patterns of excluded directories: what stands in front of `/*` in a pattern.
-/
def directoryPatterns (filter : FileFilter) : List String :=
  filter.excludePatterns.filterMap fun pattern =>
    match pattern.toList.reverse with
    | '*' :: '/' :: front => some (String.ofList front.reverse)
    | _ => none

/--
Whether a directory is excluded with everything below it.
-/
def excludesDirectory (filter : FileFilter) (names : List String) : Bool :=
  filter.directoryPatterns.any fun pattern => isMatch pattern names

/--
Whether a file below a directory counts.
-/
def accepts (filter : FileFilter) (names : List String) : Bool :=
  filter.hasExtension (names.getLastD "") && !filter.isHidden names && !filter.excludesFile names

/--
Whether there can be files that count below a directory.
-/
def enters (filter : FileFilter) (names : List String) : Bool :=
  !filter.isHidden names && !filter.excludesDirectory names

end FileFilter

namespace Item

/--
What was found under one name of a directory.
-/
structure Branch where
  isDirectory : Bool
  name : String
  found : List (List String)

/--
Whether a branch comes first: files come before directories, and otherwise the names decide.
-/
def Branch.precedes (first second : Branch) : Bool :=
  if first.isDirectory == second.isDirectory then decide (first.name ≤ second.name)
  else second.isDirectory

mutual

/--
The files below an item that pass a test, where only directories that pass another one are entered.
They are given by the names that lead to them: the files of a directory by their names, and then
those of its directories by theirs.
-/
def collect (accepts enters : List String → Bool) (names : List String) :
    Item → List (List String)
  | file _ => if accepts names then [names] else []
  | directory items =>
    ((collectAmong accepts enters names items).mergeSort Branch.precedes).flatMap Branch.found

/--
What is found under each name of a directory.
-/
def collectAmong (accepts enters : List String → Bool) (names : List String) :
    List (String × Item) → List Branch
  | [] => []
  | (name, item) :: rest =>
    let inner := names ++ [name]
    let found :=
      if item.isDirectory && !enters inner then [] else collect accepts enters inner item
    ⟨item.isDirectory, name, found⟩ :: collectAmong accepts enters names rest

end

end Item

namespace Disk

/--
The files that a path stands for. What is no directory stands for itself, whether it is there or
not. Nothing can be said of a path that is too long.
-/
def expand (disk : Disk) (filter : FileFilter) (path : Path) : Except Fault (List Path) :=
  match disk.item path with
  | .ok (.directory items) =>
    .ok (((Item.directory items).collect filter.accepts filter.enters []).map fun names =>
      path.join ⟨"", names⟩)
  | .error (.nameTooLong _) => .error .longPath
  | _ => .ok [path]

/--
The files that some paths stand for, each of them once.
-/
def collect (disk : Disk) (filter : FileFilter) (paths : List Path) : Except Fault (List Path) := do
  return (← paths.mapM (disk.expand filter)).flatten.eraseDups

end Disk

end ThreadLint
