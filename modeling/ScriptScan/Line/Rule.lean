import ScriptScan.Pragma
import ScriptScan.Text.Literal

/-!
# Line rules

Seven kinds of lines shape a script: the include-once directive, the two directives that register
hooks, pragmas, the beginning and the end of a function, and labels. Each kind has its rule, which
reads a whole line; any other line is part of a body. The rules are tried in order, but no two of
them ever read the same line.
-/

namespace ScriptScan

/-- The beginning of a function, as it was written. -/
structure FuncHeader where
  isVolatile : Bool
  name : Text
  params : Text
deriving DecidableEq, Repr

/-- What a line that shapes the script says. -/
inductive LineForm where
  | includeOnce
  /-- A function to be called when the script is loaded, by the key of its name. -/
  | startupHook (func : Text)
  /-- A function to be called when the script is unloaded, by the key of its name. -/
  | exitHook (func : Text)
  | pragma (d : Directive)
  | func (h : FuncHeader)
  | endFunc
  | label (name : Text)
deriving DecidableEq, Repr

namespace LineForm

/-! ## Readers -/

/-- The include-once directive. -/
def readIncludeOnce? (line : Text) : Option LineForm :=
  (line.dropWholeWord? "#include-once".toList).map fun _ => includeOnce

/-- The name in quotes behind a directive and white space. The quotes need not be alike. -/
def readHook? (directive line : Text) : Option Text := do
  let t ← line.dropKeyword? directive
  match ← t.dropBlanks? with
  | c :: t =>
    let name := t.takeWhile (!isQuote ·)
    if isQuote c && !name.isEmpty && name.length < t.length then some (Text.key name) else none
  | [] => none

/-- The word func with what belongs to it: white space, a name, and parentheses up to the end of the
line. -/
def readFunc? (isVolatile : Bool) (line : Text) : Option LineForm := do
  let t ← line.trimStart.dropKeyword? "func".toList
  let t ← t.dropBlanks?
  let (name, t) ← t.takeName?
  let t ← t.trimStart.dropChar? '('
  if t.getLast? = some ')' ∧ '\n' ∉ t then
    some (func ⟨isVolatile, name, Text.trim t.dropLast⟩)
  else none

/-- The beginning of a function, perhaps with the word volatile before it. -/
def readFuncHeader? (line : Text) : Option LineForm :=
  match line.dropKeyword? "volatile".toList with
  | some rest => readFunc? true rest
  | none => readFunc? false line

/-- The end of a function. -/
def readEndFunc? (line : Text) : Option LineForm :=
  match line.dropKeyword? "endfunc".toList with
  | some [] => some endFunc
  | _ => none

/-- A label: a name with a colon behind it. -/
def readLabel? (line : Text) : Option LineForm :=
  match line.takeName? with
  | some (name, rest) => if rest.trimStart = [':'] then some (label name) else none
  | none => none

end LineForm

/-! ## Rules -/

/-- The kinds of lines that shape a script. -/
inductive LineRule where
  | includeOnce
  | startupHook
  | exitHook
  | pragma
  | func
  | endFunc
  | label
deriving DecidableEq, Repr

namespace LineRule

/-- The rules in the order in which they are tried. -/
def all : List LineRule :=
  [includeOnce, startupHook, exitHook, pragma, func, endFunc, label]

/-- Reads a line by one rule. -/
def read? (r : LineRule) (line : Text) : Option LineForm :=
  match r with
  | includeOnce => LineForm.readIncludeOnce? line
  | startupHook => (LineForm.readHook? "#onautoitstartregister".toList line).map .startupHook
  | exitHook => (LineForm.readHook? "#onautoitexitregister".toList line).map .exitHook
  | pragma => (Directive.read? line).map .pragma
  | func => LineForm.readFuncHeader? line
  | endFunc => LineForm.readEndFunc? line
  | label => LineForm.readLabel? line

/-- Reads a line by the first of some rules that reads it. -/
def classifyBy (rules : List LineRule) (line : Text) : Option LineForm :=
  rules.findSome? (·.read? line)

/-- What a line says, if it shapes the script. -/
def classify (line : Text) : Option LineForm :=
  classifyBy all line

end LineRule

end ScriptScan
