import ScriptScan.Resolution
import ScriptScan.Script.Outline
import ScriptScan.Script.Lifecycle

/-!
# The catalog

The catalog holds the scripts that have been scanned, each under its canonical path, an index of all
their functions by key, and the directories in which they were found. Scanning a source whose
canonical path is known answers with the script that is known; a source with a fault changes
nothing; any other source adds its script, and its functions as far as their keys are free. A main
function never enters the index.
-/

namespace ScriptScan

/-! ## Setup -/

/-- How scripts are scanned. -/
structure Options where
  /-- No one-line functions, no jump labels, and the file system alone is asked for scripts. -/
  strict : Bool := false
  /-- Where requested scripts are looked for when they are found nowhere else. -/
  includeDir : Path

/-- Everything that stays the same while scripts are scanned. -/
structure Setup where
  options : Options
  handlers : List PragmaHandler := []
  resolvers : List Resolver := []
  parseParams : Text → Except Text (List Param) := ScanContext.defaultParams

/-! ## The catalog -/

/-- The path of the script that the functions of the host belong to. -/
def systemPath : Path := ⟨"<native>".toList⟩

/-- The scripts that are known, the index of their functions, the directories of their files in the
order in which they were met, and the script of the host's functions. -/
structure Catalog where
  scripts : List (Path × Script) := []
  functions : FuncTable := []
  searchPaths : List Path := []
  system : Script

namespace Catalog

/-- The catalog before any script is scanned. Of two functions of the host with one key the first
counts. -/
def initial (hostFuncs : List HostFunc) : Catalog :=
  let table := FuncTable.insertAll [] (hostFuncs.map .host)
  { functions := table, system := .make systemPath table [] [] false }

/-! ## Looking up -/

/-- The function of a name, in whatever letter case. -/
def func? (c : Catalog) (name : Text) : Option Func :=
  c.functions.find? name

/-- The script under a canonical path. -/
def find? (c : Catalog) (key : Path) : Option Script :=
  (c.scripts.find? (·.1.same key)).map (·.2)

/-- The script that a path means. -/
def cached? (c : Catalog) (fs : FileSystem) (path : Path) : Option Script :=
  c.find? (fs.canonical path)

/-- All scripts, by path. -/
def listing (c : Catalog) : List Script :=
  (c.scripts.map (·.2)).mergeSort fun a b => (compare a.path b.path).isLE

/-! ## Resolving -/

/-- Looks for the source of a requested script. -/
def resolution (setup : Setup) (fs : FileSystem) (request : Text) (relative : Bool) : Resolution :=
  .ofQuestions fs <|
    Resolution.questions (Resolution.candidates setup.options.includeDir request relative)
      (Strategy.available setup.options.strict setup.resolvers)

/-- The source of a script that is requested at some place. -/
def resolve (setup : Setup) (fs : FileSystem) (span : Span) (request : Text) (relative : Bool) :
    Except Fault Source :=
  match (resolution setup fs request relative).source? with
  | some s => .ok s
  | none => .error ⟨.unresolvedScript request, span⟩

/-! ## Scanning -/

/-- What a script is read with. -/
def context (c : Catalog) (setup : Setup) : ScanContext :=
  { strict := setup.options.strict
    handlers := setup.handlers
    parseParams := setup.parseParams
    known := (c.functions.lookup ·) }

/-- The script that a text declares, under the given canonical path. -/
def read (c : Catalog) (setup : Setup) (key : Path) (content : Text) : Except Fault Script :=
  match LogicalSource.read ⟨key.text, setup.options.strict⟩ content with
  | .error f => .error f
  | .ok source => Script.ofSource (c.context setup) key source

/-- Adds the directory of a canonical path, if there is one and it is new. -/
def addSearchPath (fs : FileSystem) (key : Path) (paths : List Path) : List Path :=
  match key.parent? with
  | none => paths
  | some dir => if !fs.isDir dir || paths.any (·.same dir) then paths else paths ++ [dir]

/-- The catalog with one more script. -/
def publish (c : Catalog) (fs : FileSystem) (key : Path) (s : Script) : Catalog :=
  { c with
    scripts := c.scripts ++ [(key, s)]
    functions := c.functions.insertAll s.publicFuncs
    searchPaths := addSearchPath fs key c.searchPaths }

/-- Scans a source that is at hand. -/
def scanSource (c : Catalog) (setup : Setup) (fs : FileSystem) (source : Source) :
    Catalog × Except Fault Script :=
  let key := fs.canonical source.path
  match c.find? key with
  | some s => (c, .ok s)
  | none =>
    match c.read setup key source.content with
    | .ok s => (c.publish fs key s, .ok s)
    | .error f => (c, .error f)

/-- Resolves and scans a script that is requested at some place. -/
def scan (c : Catalog) (setup : Setup) (fs : FileSystem) (span : Span) (request : Text)
    (relative : Bool) : Catalog × Except Fault Script :=
  match resolve setup fs span request relative with
  | .ok source => c.scanSource setup fs source
  | .error f => (c, .error f)

/-- The handler runs that scanning a source leads to. -/
def pragmaCalls (c : Catalog) (setup : Setup) (fs : FileSystem) (source : Source) :
    List PragmaCall :=
  let key := fs.canonical source.path
  match c.find? key, LogicalSource.read ⟨key.text, setup.options.strict⟩ source.content with
  | none, .ok text => Outline.pragmaCalls (c.context setup) (.empty key) text.lines
  | _, _ => []

/-! ## Scripts in use -/

/-- Which script is meant: that of the host's functions, or the one under a canonical path. -/
inductive ScriptRef where
  | system
  | scanned (key : Path)
deriving DecidableEq, Repr

/-- The script that is meant. -/
def script? (c : Catalog) : ScriptRef → Option Script
  | .system => some c.system
  | .scanned key => c.find? key

/-- The catalog with a script in place of the one that is meant. -/
def replace (c : Catalog) (ref : ScriptRef) (s : Script) : Catalog :=
  match ref with
  | .system => { c with system := s }
  | .scanned key =>
    { c with scripts := c.scripts.map fun (k, t) => if k.same key then (k, s) else (k, t) }

/-- Loads or unloads a script. -/
def transition {σ : Type} (c : Catalog) (ref : ScriptRef) (frame : CallFrame σ) (memory : σ)
    (target : LoadState) : Option (Catalog × HookRun σ) :=
  (c.script? ref).map fun s =>
    let (s', run) := s.transition frame memory target
    (c.replace ref s', run)

end Catalog

end ScriptScan
