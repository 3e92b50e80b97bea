import ScriptScan.Catalog

/-!
# Reports

A report tells what some files declare: for each script that was scanned its functions with their
labels, and its hooks; for each file with a fault, the fault. Files are reported in the order in
which they were given.
-/

namespace ScriptScan

/-- What is told about a label. -/
structure LabelReport where
  name : Text
  span : Span
deriving DecidableEq, Repr

/-- What is told about a function. -/
structure FuncReport where
  name : Text
  span : Span
  isVolatile : Bool
  params : List Param
  lineCount : Nat
  labels : List LabelReport
deriving DecidableEq, Repr

/-- What is told about a script. -/
structure ScriptReport where
  path : Text
  includeOnce : Bool
  functions : List FuncReport
  startup : List Text
  exit : List Text
deriving DecidableEq, Repr

/-- What is told about a file with a fault. -/
structure FaultReport where
  file : Text
  fault : Fault
deriving DecidableEq, Repr

/-- A report. -/
structure Report where
  scripts : List ScriptReport
  faults : List FaultReport
deriving DecidableEq, Repr

namespace FuncReport

/-- The report of a function. Its labels are told in source order. -/
def ofDecl (f : FuncDecl) : FuncReport :=
  { name := f.name
    span := f.span
    isVolatile := f.isVolatile
    params := f.params
    lineCount := f.table.size
    labels := (f.labels.mergeSort fun a b => (compare a.span b.span).isLE).map
      fun l => ⟨l.name, l.span⟩ }

/-- Whether one function is told before another: the main function first, then by name in upper
case. -/
def before (f g : FuncReport) : Bool :=
  if isMainName f.name = isMainName g.name then (compare f.name.upper g.name.upper).isLE
  else isMainName f.name

end FuncReport

/-- The report of a script. -/
def ScriptReport.ofScript (s : Script) : ScriptReport :=
  { path := s.path.text
    includeOnce := s.includeOnce
    functions :=
      ((s.functions.funcs.filterMap Func.decl?).map FuncReport.ofDecl).mergeSort FuncReport.before
    startup := s.startup.map (·.func)
    exit := s.exit.map (·.func) }

namespace Report

/-- A file that was scanned, and what came of it. -/
abbrev Outcome := Path × Except Fault Script

/-- The report of some files. -/
def ofOutcomes (outcomes : List Outcome) : Report :=
  { scripts := outcomes.filterMap fun (_, r) => r.toOption.map ScriptReport.ofScript
    faults := outcomes.filterMap fun (path, r) =>
      match r with
      | .error f => some ⟨path.text, f⟩
      | .ok _ => none }

/-- Whether no file had a fault. -/
def isClean (r : Report) : Bool :=
  r.faults.isEmpty

/-- Scans some files one after the other, beginning with a catalog. -/
def scanFiles (setup : Setup) (fs : FileSystem) (c : Catalog) : List Path → List Outcome
  | [] => []
  | p :: ps =>
    let (c', r) := c.scan setup fs .unknown p.text false
    (p, r) :: scanFiles setup fs c' ps

end Report

end ScriptScan
