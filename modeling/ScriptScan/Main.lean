import ScriptScan.CommandLine

/-!
# The program

The outer layer of the command. The files and directories that the arguments name are read into a
file system value, and the command is run on it.

An entry whose real path is its own path is a file, a directory or a special file; any other entry
is a link, and is kept as a link to its real path. A file that cannot be read is kept with the
reason, and a special file is left out, like what has no real path.
-/

namespace ScriptScan

namespace Disk

/-- The real path of an entry, if there is one. -/
def realPathOf? (path : String) : IO (Option String) := do
  try
    let real ← IO.FS.realPath path
    pure (some real.toString)
  catch _ => pure none

/-- What kind of entry stands at a path, if there is one. -/
def kindOf? (path : String) : IO (Option IO.FS.FileType) := do
  try
    let real ← IO.FS.realPath path
    pure (some (← real.metadata).type)
  catch _ => pure none

/-- What reading a file comes to. -/
def contentOf (path : String) : IO FileContent := do
  try
    let bytes ← IO.FS.readBinFile path
    pure (.bytes bytes.toList)
  catch e => pure (.unreadable (toString e).toList)

/-- The names of the entries of a directory. -/
def entriesOf (path : String) : IO (List String) := do
  try
    let real ← IO.FS.realPath path
    pure ((← real.readDir).toList.map (·.fileName))
  catch _ => pure []

/-- The path of a place, for the operating system. -/
def osPath (place : Place) : String :=
  String.ofList (Path.ofNames place).text

/-- The place of a path without links. -/
def placeOf (real : String) : Place :=
  (Text.splitOn '/' real.toList).filter (!·.isEmpty)

/-- Adds what stands at a place that no link leads to. -/
def loadEntry (fs : FileSystem) (place : Place) : IO FileSystem := do
  match ← kindOf? (osPath place) with
  | some .file => pure (fs.set place (.file (← contentOf (osPath place))))
  | some .dir => pure (fs.set place .directory)
  | _ => pure fs

/-- Adds the entries that some steps from a place pass, and tells where they end. -/
partial def loadSteps (fs : FileSystem) (place : Place) : List Step → IO (FileSystem × Option Place)
  | [] => pure (fs, some place)
  | .stay :: rest => loadSteps fs place rest
  | .up :: rest => loadSteps fs place.dropLast rest
  | .into name :: rest => do
    let there := place ++ [name]
    match ← realPathOf? (osPath there) with
    | none => pure (fs, none)
    | some real =>
      if real = osPath there then loadSteps (← loadEntry fs there) there rest
      else
        let fs := fs.set there (.link real.toList)
        loadSteps fs [] ((placeOf real).map .into ++ rest)

/-- Adds everything below a directory. Links are left out. -/
partial def loadBelow (fs : FileSystem) (place : Place) : IO FileSystem := do
  let mut fs := fs
  for name in ← entriesOf (osPath place) do
    let there := place ++ [name.toList]
    if (← realPathOf? (osPath there)) = some (osPath there) then
      fs ← loadEntry fs there
      if fs.node? there = some .directory then
        fs ← loadBelow fs there
  pure fs

/-- Adds what a path means, and everything below it if it is a directory. -/
def loadPath (fs : FileSystem) (path : Path) : IO FileSystem := do
  let (fs, place?) ← loadSteps fs (fs.startOf path.text) (Step.ofText path.text)
  match place? with
  | none => pure fs
  | some place =>
    if fs.node? place = some .directory then loadBelow fs place else pure fs

/-- The file system that a command needs. -/
def loadFor (args : List Text) : IO FileSystem := do
  -- without a working directory, its place is one that holds nothing
  let workDir := ((← realPathOf? ".").map placeOf).getD [[]]
  let (fs, _) ← loadSteps (.empty workDir) [] (workDir.map .into)
  match CommandLine.Command.ofArgs args with
  | .error _ => pure fs
  | .ok command => command.paths.foldlM loadPath fs

end Disk

end ScriptScan

/-- Scans the scripts that the arguments name. -/
def main (args : List String) : IO UInt32 := do
  let args := args.map (·.toList)
  let exit := ScriptScan.CommandLine.run (← ScriptScan.Disk.loadFor args) args
  IO.print (String.ofList exit.output)
  for line in exit.errors do
    IO.eprintln (String.ofList line)
  pure (UInt32.ofNat exit.code)
