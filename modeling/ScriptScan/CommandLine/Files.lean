import ScriptScan.FileSystem

/-!
# Script files

The paths of the command line stand for script files: a file for itself, and a directory for all
files with the script extension at any depth below it. The files are put in path order, and of
neighbours that are the same path the first is kept. A path that means nothing, a directory that
cannot be opened because its path is too long, and a directory without any script file are errors.
-/

namespace ScriptScan

namespace CommandLine

/-- Why the script files cannot be told. -/
inductive FilesError where
  /-- Nothing stands at a path. -/
  | notFound (path : Path)
  /-- The path of a directory is too long to open it. -/
  | tooLong (path : Path)
  /-- A directory holds no script file. -/
  | noScripts (path : Path)
deriving DecidableEq, Repr

namespace FilesError

/-- The code of the error. -/
def code : FilesError → Text
  | notFound _ => "CLI_SOURCE_NOT_FOUND".toList
  | tooLong _ => "CLI_SOURCE_WALK".toList
  | noScripts _ => "CLI_SOURCE_EMPTY".toList

/-- The message for the user. -/
def message : FilesError → Text
  | notFound path => "path does not exist: ".toList ++ path.text
  | tooLong path =>
    "IO error for operation on ".toList ++ path.text ++
      ": File name too long (os error 36)".toList
  | noScripts path => "No .au3 files under ".toList ++ path.text

end FilesError

/-- Whether a path has the extension of scripts, in whatever letter case. -/
def isScriptPath (p : Path) : Bool :=
  match p.extension? with
  | some ext => Text.sameIgnoringCase ext "au3".toList
  | none => false

/-- The paths of what stands below a directory, seen from it. -/
def pathsBelow (fs : FileSystem) (dir : Path) : List (Path × Node) :=
  match fs.find? dir with
  | none => []
  | some place => (fs.below place).map fun (names, node) => (dir.joinAll (names.map .name), node)

/-- The script files below a directory, seen from it. Every directory on the way is opened. -/
def scriptsBelow (fs : FileSystem) (dir : Path) : Except FilesError (List Path) :=
  let entries := pathsBelow fs dir
  match entries.find? fun (p, node) => node == .directory && FileSystem.isTooLong p with
  | some (p, _) => .error (.tooLong p)
  | none =>
    .ok (entries.filterMap fun (p, node) =>
      match node with
      | .file _ => if isScriptPath p then some p else none
      | _ => none)

/-- The script files that one path stands for. -/
def filesAt (fs : FileSystem) (p : Path) : Except FilesError (List Path) :=
  if fs.isFile p then .ok [p]
  else if fs.isDir p then
    match scriptsBelow fs p with
    | .ok [] => .error (.noScripts p)
    | found => found
  else .error (.notFound p)

/-- The script files that some paths stand for, path by path. -/
def filesOfAll (fs : FileSystem) : List Path → Except FilesError (List Path)
  | [] => .ok []
  | p :: ps =>
    match filesAt fs p with
    | .error e => .error e
    | .ok files =>
      match filesOfAll fs ps with
      | .error e => .error e
      | .ok rest => .ok (files ++ rest)

/-- The list without those that are the same path as the one kept before them. -/
def dropRepeated : List Path → List Path
  | [] => []
  | [p] => [p]
  | p :: q :: rest =>
    if p.same q then dropRepeated (p :: rest) else p :: dropRepeated (q :: rest)
termination_by ps => ps.length

/-- The script files that some paths stand for, in path order and without repetitions. -/
def scriptFiles (fs : FileSystem) (paths : List Path) : Except FilesError (List Path) :=
  match filesOfAll fs paths with
  | .error e => .error e
  | .ok files => .ok (dropRepeated (files.mergeSort fun p q => (compare p q).isLE))

end CommandLine

end ScriptScan
