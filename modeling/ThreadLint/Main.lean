import ThreadLint.CommandLine

/-!
This module contains the program: it takes in the files that its arguments may be about, runs the
command, and writes back what the command did.
-/

namespace ThreadLint.Program

/--
What stands at an absolute path, where links are passed over.
-/
partial def load (path : Path) : IO (Option Item) := do
  let place := (← IO.currentDir) / path.text
  if !(← place.pathExists) then return none
  else if ← place.isDir then
    let mut items : Keyed Item := []
    for entry in ← place.readDir do
      if (← entry.path.symlinkMetadata).type != .symlink then
        if let some item ← load (path.join ⟨"", [entry.fileName]⟩) then
          items := items ++ [(entry.fileName, item)]
    return some (.directory items)
  else return some (.file (← IO.FS.readBinFile place))

/--
The names that lead to a path from the top.
-/
def namesOf (path : Path) : List String :=
  path.names.foldl (fun names name => if name == ".." then names.dropLast else names ++ [name]) []

/--
The disk with what stands at a path.
-/
def withItem (disk : Disk) (path : Path) : IO Disk := do
  let path := disk.here.join path
  match ← load path with
  | some item => return { disk with items := Item.putAt item (namesOf path) disk.items }
  | none => return disk

/--
The disk as far as some arguments may be about it: the current directory, the user's settings, and
every argument that is a path.
-/
def loadDisk (words : List String) : IO Disk := do
  let here := Path.ofString (← IO.currentDir).toString
  let home := Path.ofString ((← IO.getEnv "HOME").getD "/")
  let paths := ⟨"", []⟩ :: home.join ⟨"", [".hostguard.toml"]⟩ :: words.map Path.ofString
  paths.foldlM withItem ⟨[], here, home⟩

/--
The environment variables that hold settings.
-/
def loadEnvironment : IO (Keyed String) := do
  let found ← Settings.keys.mapM fun key => do
    let name := Settings.variableName key
    return (← IO.getEnv name).map fun value => (name, value)
  return found.filterMap id

/--
Writes the files that differ between two states of the disk. A file is written beside its place and
then moved there, so that nobody sees a part of it.
-/
def store (before after : Disk) : IO Unit := do
  for (names, content) in (Item.directory after.items).files [] do
    let isSame := match before.find? names with
      | some (.file present) => present == content
      | _ => false
    if !isSame then
      let path := (Path.mk "/" names).text
      IO.FS.writeBinFile (path ++ ".tmp") content
      IO.FS.rename (path ++ ".tmp") path

/--
The width of the terminal.
-/
def room : IO Nat := do
  return (((← IO.getEnv "COLUMNS").bind String.toNat?).getD 80)

/--
Runs the program with some arguments.
-/
def run (words : List String) : IO UInt32 := do
  let disk ← loadDisk words
  let effect := CommandLine.run (← room) (← loadEnvironment) disk words
  store disk effect.disk
  for line in effect.output do
    IO.println line
  if let some complaint := effect.complaint then
    IO.eprintln complaint
  return effect.status.code.toUInt32

end ThreadLint.Program

/--
Runs the program and ends with its status.
-/
def main (words : List String) : IO UInt32 :=
  ThreadLint.Program.run words
