import ScriptScan.FileSystem.Tree
import ScriptScan.Path

/-!
# The file system

A file system is a value: what stands at each place, and the place where relative paths begin.
Finding what a path means follows symbolic links, up to a limit; the path of the place that is found
holds no links.

The working directory may be gone, as it is once it has been removed. Then a relative path means
nothing, and has no absolute form.
-/

namespace ScriptScan

/-- A file system, and the place of the working directory, where nothing need stand. Places that are
not listed hold nothing, except the root, which is a directory. -/
structure FileSystem where
  nodes : List (Place × Node)
  workDir : Place
  isTree : IsTree nodes

/-! ## Ways -/

/-- One step on the way that a path describes. -/
inductive Step where
  /-- Stays at the place, which has to be a directory. -/
  | stay
  /-- Goes to the parent directory. -/
  | up
  /-- Goes to an entry of the directory. -/
  | into (name : Text)
deriving DecidableEq, Repr

/-- The steps of a path. A slash at the end asks for a directory. -/
def Step.ofText (t : Text) : List Step :=
  let steps := (Text.splitOn '/' t).filterMap fun piece =>
    match piece with
    | [] => none
    | ['.'] => some .stay
    | ['.', '.'] => some .up
    | n => some (.into n)
  if t.getLast? = some '/' then steps ++ [.stay] else steps

/-- Whether the steps behind a place ask for a directory without entering it: they only stay there,
or they go up again. -/
def Step.askDirectory : List Step → Bool
  | [] => false
  | [.stay] => true
  | .stay :: rest => askDirectory rest
  | .up :: _ => true
  | .into _ :: _ => false

namespace FileSystem

/-- The file system that holds nothing yet. -/
def empty (workDir : Place) : FileSystem :=
  ⟨[], workDir, by simp, by simp, by simp, by simp⟩

/-- What stands at a place. -/
def node? (fs : FileSystem) (p : Place) : Option Node :=
  nodeIn fs.nodes p

/-- The place where a path begins. -/
def startOf (fs : FileSystem) (t : Text) : Place :=
  if t.head? = some '/' then [] else fs.workDir

/-- How many links are followed on one way. -/
def maxLinks : Nat := 40

/-- How many bytes a path may have by which something is opened. -/
def maxPathBytes : Nat := 4095

/-- Whether a path is too long to open what it means. -/
def isTooLong (p : Path) : Bool :=
  maxPathBytes < p.text.byteLength

/-- Follows some steps, and at most `links` links: the place reached, and the steps that are left.
Every step starts at a directory, and goes to a place only if `opens` admits its path, with a slash
at the end if a directory is asked for. If nothing stands where a step goes, that step and those
behind it are left; there is no answer if the way leads nowhere for another reason. -/
def follow (fs : FileSystem) (opens : Path → Bool) (links : Nat) (here : Place) :
    List Step → Option (Place × List Step)
  | [] => some (here, [])
  | s :: rest =>
    if fs.node? here = some .directory then
      match s with
      | .stay => follow fs opens links here rest
      | .up => follow fs opens links here.dropLast rest
      | .into n =>
        let there := here ++ [n]
        match fs.node? there with
        | none => some (here, .into n :: rest)
        | some (.link target) =>
          match links with
          | 0 => none
          | links + 1 =>
            if opens (Path.ofNames there) then
              let start := if target.head? = some '/' then [] else here
              follow fs opens links start (Step.ofText target ++ rest)
            else none
        | some _ =>
          let path := Path.ofNames there
          if opens (if Step.askDirectory rest then path.join ⟨[]⟩ else path) then
            follow fs opens links there rest
          else none
    else none
termination_by steps => (links, steps.length)

/-- The place that some steps lead to, following at most `links` links. -/
def walk (fs : FileSystem) (links : Nat) (here : Place) (steps : List Step) : Option Place :=
  match fs.follow (fun _ => true) links here steps with
  | some (there, []) => some there
  | _ => none

/-- The place that a path means, if anything stands there. -/
def find? (fs : FileSystem) (p : Path) : Option Place :=
  if p.text.isEmpty then none else fs.walk maxLinks (fs.startOf p.text) (Step.ofText p.text)

/-- What stands where a path leads, unless the path is too long. -/
def get? (fs : FileSystem) (p : Path) : Option Node :=
  if isTooLong p then none else (fs.find? p).bind fs.node?

/-- What reading the file that a path means comes to. -/
def file? (fs : FileSystem) (p : Path) : Option FileContent :=
  match fs.get? p with
  | some (.file content) => some content
  | _ => none

/-- Whether a path means a file, be it readable or not. -/
def isFile (fs : FileSystem) (p : Path) : Bool :=
  (fs.file? p).isSome

/-- Whether a path means a directory. -/
def isDir (fs : FileSystem) (p : Path) : Bool :=
  fs.get? p == some .directory

/-- The path of what a path means, without links, if anything stands there. It is put together from
the root on, and what it goes through is opened by the path so far; the path itself may be longer
than those. -/
def realPath? (fs : FileSystem) (p : Path) : Option Path :=
  if p.text.isEmpty then none
  else
    match fs.follow (!isTooLong ·) maxLinks (fs.startOf p.text) (Step.ofText p.text) with
    | some (there, []) => some (Path.ofNames there)
    | _ => none

/-- The absolute form of a path, unless it is seen from a working directory that is gone. -/
def absolute? (fs : FileSystem) (p : Path) : Option Path :=
  let start := fs.startOf p.text
  if fs.node? start = some .directory then some (Path.absolute (Path.ofNames start) p) else none

/-- The key under which a script is known by its path: an address as it is, the real path of what
exists, the absolute form of any other path, and the path itself if it has none. -/
def canonical (fs : FileSystem) (p : Path) : Path :=
  if p.isAddress then p
  else ((fs.realPath? p).or (fs.absolute? p)).getD p

/-- What stands below a directory, each with the names that lead to it from there. Links are not
followed. -/
def below (fs : FileSystem) (dir : Place) : List (List Text × Node) :=
  fs.nodes.filterMap fun (place, node) =>
    if dir.isPrefixOf place && place != dir then some (place.drop dir.length, node) else none

/-! ## Changes -/

/-- Whether something can be put at a place: it would stand in a directory, and no directory stands
there already. -/
def canSet (fs : FileSystem) (p : Place) : Prop :=
  p ≠ [] ∧ p.all isName = true ∧ fs.node? p.dropLast = some .directory ∧
    fs.node? p ≠ some .directory

instance (fs : FileSystem) (p : Place) : Decidable (fs.canSet p) :=
  inferInstanceAs (Decidable (_ ∧ _ ∧ _ ∧ _))

/-- The file system with something put at a place, if that can be; otherwise it is unchanged. -/
def set (fs : FileSystem) (p : Place) (node : Node) : FileSystem :=
  if h : fs.canSet p then
    { fs with
      nodes := fs.nodes.filter (·.1 ≠ p) ++ [(p, node)]
      isTree := fs.isTree.replace node h.1 h.2.1 h.2.2.1 h.2.2.2 }
  else fs

/-- The file system with something put at a place, if nothing stands there. -/
def put (fs : FileSystem) (p : Place) (node : Node) : FileSystem :=
  if (fs.node? p).isNone then fs.set p node else fs

/-- The directory that some steps lead to; directories that are missing on the way are made. -/
def makeDirs (fs : FileSystem) (here : Place) : List Step → FileSystem × Place
  | [] => (fs, here)
  | .stay :: rest => makeDirs fs here rest
  | .up :: rest => makeDirs fs here.dropLast rest
  | .into n :: rest =>
    match fs.walk maxLinks here [.into n] with
    | some there => makeDirs fs there rest
    | none => makeDirs (fs.put (here ++ [n]) .directory) (here ++ [n]) rest

/-- The file system with a directory at a path. -/
def addDir (fs : FileSystem) (p : Path) : FileSystem :=
  (fs.makeDirs (fs.startOf p.text) (Step.ofText p.text)).1

/-- The file system with the directories that a path goes through. -/
def addDirsAbove (fs : FileSystem) (p : Path) : FileSystem :=
  fs.addDir (p.parent?.getD ⟨[]⟩)

/-- The file system with a file at a path, in place of the file that stood there. A link is followed
to the file it means, which may be missing. -/
def addFile (fs : FileSystem) (p : Path) (bytes : List UInt8) : FileSystem :=
  let fs := fs.addDirsAbove p
  match fs.follow (fun _ => true) maxLinks (fs.startOf p.text) (Step.ofText p.text) with
  | some (there, []) => fs.set there (.file (.bytes bytes))
  | some (dir, [.into n]) => fs.set (dir ++ [n]) (.file (.bytes bytes))
  | _ => fs

/-- The file system with a symbolic link at a path, unless something stands there. -/
def addLink (fs : FileSystem) (p : Path) (target : Text) : FileSystem :=
  let fs := fs.addDirsAbove p
  let steps := Step.ofText p.text
  match fs.walk maxLinks (fs.startOf p.text) steps.dropLast, steps.getLast? with
  | some dir, some (.into n) => fs.put (dir ++ [n]) (.link target)
  | _, _ => fs

/-- The file system without what stands at the place that the last step of a path names, and
without what is below it. With a slash at the end the path names a directory. -/
def remove (fs : FileSystem) (p : Path) : FileSystem :=
  let steps := Step.ofText p.text
  let named := (steps.reverse.dropWhile (· = .stay)).reverse
  match fs.walk maxLinks (fs.startOf p.text) named.dropLast, named.getLast? with
  | some dir, some (.into n) =>
    if named = steps ∨ fs.node? (dir ++ [n]) = some .directory then
      { fs with
        nodes := fs.nodes.filter fun e => !(dir ++ [n]).isPrefixOf e.1
        isTree := fs.isTree.prune (dir ++ [n]) }
    else fs
  | _, _ => fs

end FileSystem

end ScriptScan
