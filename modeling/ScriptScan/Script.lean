import ScriptScan.Func

/-!
# Scripts

A script is what one source file declares: functions under the keys of their names, the hooks that
run when it is loaded and unloaded, and whether it wants to be included only once. Every script has
a main function, unless the host provides a function under that name. A script is known by its path.
-/

namespace ScriptScan

/-- Functions under their keys. -/
abbrev FuncTable := List (Text × Func)

namespace FuncTable

/-- The function of a name, in whatever letter case. -/
def find? (t : FuncTable) (name : Text) : Option Func :=
  t.lookup name.key

/-- The table with a function under its key, unless that key is taken. -/
def insertNew (t : FuncTable) (f : Func) : FuncTable :=
  if (t.lookup f.key).isSome then t else t ++ [(f.key, f)]

/-- The table with some functions, each under its key unless that is taken. -/
def insertAll (t : FuncTable) (fs : List Func) : FuncTable :=
  fs.foldl insertNew t

/-- The functions in the table. -/
def funcs (t : FuncTable) : List Func :=
  t.map (·.2)

end FuncTable

/-- A function that a directive asks to be called, by the key of its name, and the place of the
directive. -/
structure Hook where
  func : Text
  span : Span
deriving DecidableEq, Repr

/-- Whether a script is in use. -/
inductive LoadState where
  | unloaded
  | loaded
deriving DecidableEq, Repr

/-- The written form of a state. -/
def LoadState.display : LoadState → Text
  | .unloaded => "Unloaded".toList
  | .loaded => "Loaded".toList

/-- A script. -/
structure Script where
  path : Path
  functions : FuncTable
  startup : List Hook := []
  exit : List Hook := []
  includeOnce : Bool := false
  state : LoadState := .unloaded

namespace Script

/-- A script with the given functions, and a main function if there is none among them. -/
def make (path : Path) (functions : FuncTable) (startup exit : List Hook) (includeOnce : Bool) :
    Script :=
  { path, startup, exit, includeOnce
    functions := functions.insertNew (.declared (.main path)) }

/-- The function of a name, in whatever letter case. -/
def func? (s : Script) (name : Text) : Option Func :=
  s.functions.find? name

/-- The functions that other scripts can call: all but main functions. -/
def publicFuncs (s : Script) : List Func :=
  s.functions.funcs.filter (!·.isMain)

/-- The main function, if it is declared in the script. -/
def main? (s : Script) : Option FuncDecl :=
  (s.func? mainName).bind Func.decl?

/-- Whether two scripts have one path. -/
def same (a b : Script) : Bool :=
  a.path.same b.path

/-- What a script is hashed by. -/
def digest (s : Script) : Path.Digest :=
  s.path.digest

/-- Whether one function is listed before another: the main function first, then by key. -/
def listedBefore (f g : Func) : Bool :=
  if f.isMain = g.isMain then (compare f.key g.key).isLE else f.isMain

/-- The functions, the main function first and then by key. -/
def listing (s : Script) : List Func :=
  s.functions.funcs.mergeSort listedBefore

/-- A short description for debugging. -/
def describe (s : Script) : Text :=
  "ScannedScript \x7b location: ".toList ++ s.path.quote ++ ", functions: ".toList ++
    Text.ofNat s.functions.length ++ ", include_once: ".toList ++
    (if s.includeOnce then "true".toList else "false".toList) ++ ", state: ".toList ++
    s.state.display ++ " \x7d".toList

end Script

/-- The labels of a function, in source order, and by name where two stand in one place. -/
def FuncDecl.labelListing (f : FuncDecl) : List Label :=
  (f.labels.mergeSort fun a b => (compare a.name b.name).isLE).mergeSort
    fun a b => (compare a.span b.span).isLE

end ScriptScan
