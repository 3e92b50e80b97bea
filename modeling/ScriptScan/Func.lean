import ScriptScan.CallResult
import ScriptScan.Func.LineTable
import ScriptScan.Path

/-!
# Functions and labels

A function is declared in a script or provided by the host. A declared function has a body, whose
lines are kept under their spans, and jump labels; it is called and compared by the key of its name,
and it belongs to the script with its path.
-/

namespace ScriptScan

/-! ## Names -/

/-- The name of the function that holds the top-level lines of a script. -/
def mainName : Text := "$global".toList

/-- Whether a name is that of the main function. -/
def isMainName (name : Text) : Bool :=
  Text.sameIgnoringCase name mainName

/-- The names that no function may have, in upper case. -/
def reservedNames : List Text :=
  ["_".toList, "$_".toList, "$GLOBAL".toList, "GLOBAL".toList, "STATIC".toList, "DIM".toList,
   "REDIM".toList, "ENUM".toList, "STEP".toList, "LOCAL".toList, "FOR".toList, "IN".toList,
   "NEXT".toList, "DEFAULT".toList, "NULL".toList, "FUNC".toList, "ENDFUNC".toList, "DO".toList,
   "UNTIL".toList, "WHILE".toList, "WEND".toList, "IF".toList, "THEN".toList, "ELSE".toList,
   "ENDIF".toList, "ELSEIF".toList, "SELECT".toList, "ENDSELECT".toList, "CASE".toList,
   "SWITCH".toList, "ENDSWITCH".toList, "WITH".toList, "ENDWITH".toList, "CONTINUECASE".toList,
   "CONTINUELOOP".toList, "EXIT".toList, "EXITLOOP".toList, "RETURN".toList, "VOLATILE".toList]

/-- Whether a name is reserved, in whatever letter case. -/
def isReservedName (name : Text) : Bool :=
  reservedNames.contains name.upper

/-! ## Labels -/

/-- A jump label: the script and the function that it belongs to, its own name, and where it
stands. Names are kept as keys. -/
structure Label where
  script : Path
  func : Text
  name : Text
  span : Span
deriving DecidableEq, Repr

/-- Whether two labels are the same jump target. -/
def Label.same (a b : Label) : Bool :=
  a.script.same b.script && a.func == b.func && a.name == b.name

/-- What a label is hashed by. -/
def Label.digest (l : Label) : Path.Digest × Text × Text :=
  (l.script.digest, l.func, l.name)

/-! ## Declared functions -/

/-- A function that is declared in a script. -/
structure FuncDecl where
  name : Text
  script : Path
  declaredAt : Span
  params : List Param := []
  isVolatile : Bool := false
  table : LineTable := {}
  labels : List Label := []
deriving DecidableEq, Repr

namespace FuncDecl

/-- The main function of a script, without any lines. -/
def main (script : Path) : FuncDecl :=
  { name := mainName, script, declaredAt := .line script.text 1 }

/-- How many arguments the function takes. -/
def arity (f : FuncDecl) : Arity :=
  .ofParams f.params

/-- The label of a name, in whatever letter case. -/
def label? (f : FuncDecl) (name : Text) : Option Label :=
  let key := name.key
  f.labels.find? (·.name == key)

/-- The lines of the body, in the order of their spans. -/
def body (f : FuncDecl) : List LogicalLine :=
  f.table.lines

/-- From the first line of the body to the last; the declaration, if there is no body. -/
def span (f : FuncDecl) : Span :=
  f.table.span?.getD f.declaredAt

/-- The function with one more line. -/
def addLine (f : FuncDecl) (l : LogicalLine) : FuncDecl :=
  { f with table := f.table.add l }

/-- The function with one more label, and with an empty line in its place. -/
def addLabel (f : FuncDecl) (name : Text) (span : Span) : FuncDecl :=
  let label : Label := ⟨f.script, f.name.key, name.key, span⟩
  { f with labels := f.labels ++ [label] }.addLine ⟨[], span⟩

/-- The written form of a function. -/
def display (f : FuncDecl) : Text :=
  '[' :: f.script.text ++ "] Func ".toList ++ f.name ++ '(' :: Param.displayList f.params ++
    ")  [".toList ++ Text.ofNat f.table.size ++ " Lines]".toList

end FuncDecl

/-! ## Functions of the host -/

/-- A function that the host provides. It is called from some place with some values. -/
structure HostFunc where
  name : Text
  script : Path
  arity : Arity
  run : Span → List Value → CallResult

/-- The written form of a function. -/
def HostFunc.display (f : HostFunc) : Text :=
  "[native] [".toList ++ f.script.text ++ "] Func ".toList ++ f.name

/-! ## Functions -/

/-- A function. -/
inductive Func where
  | declared (f : FuncDecl)
  | host (f : HostFunc)

namespace Func

/-- The name, as it was written. -/
def name : Func → Text
  | declared f => f.name
  | host f => f.name

/-- The key of the name. -/
def key (f : Func) : Text :=
  f.name.key

/-- The path of the script that the function belongs to. -/
def script : Func → Path
  | declared f => f.script
  | host f => f.script

/-- Where the function stands. -/
def span : Func → Span
  | declared f => f.span
  | host _ => .unknown

/-- How many arguments the function takes. -/
def arity : Func → Arity
  | declared f => f.arity
  | host f => f.arity

/-- Whether this is a main function. -/
def isMain (f : Func) : Bool :=
  isMainName f.name

/-- The declaration of a function that has one. -/
def decl? : Func → Option FuncDecl
  | declared f => some f
  | host _ => none

/-- Whether two functions have one name and belong to one script. -/
def same (f g : Func) : Bool :=
  f.key == g.key && f.script.same g.script

/-- What a function is hashed by. -/
def digest (f : Func) : Text × Path.Digest :=
  (f.key, f.script.digest)

/-- The written form of a function. -/
def display : Func → Text
  | declared f => f.display
  | host f => f.display

end Func

end ScriptScan
