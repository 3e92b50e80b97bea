import ScriptScan.Report
import ScriptScan.Json.Printer
import ScriptScan.Json.Record

/-!
# Writing reports

A report is written as text, with one line for each script, function, label and fault, or as a JSON
document over indented lines.
-/

namespace ScriptScan

/-! ## Text -/

/-- The line of a label. -/
def LabelReport.line (l : LabelReport) : Text :=
  "    label ".toList ++ l.name ++ " @ ".toList ++ l.span.display ++ ['\n']

/-- The lines of a function and its labels. -/
def FuncReport.lines (f : FuncReport) : Text :=
  "  ".toList ++ (if f.isVolatile then "Volatile ".toList else []) ++ "Func ".toList ++ f.name ++
    '(' :: Param.displayList f.params ++ ")  [".toList ++ Text.ofNat f.lineCount ++
    " Lines] @ ".toList ++ f.span.display ++ '\n' :: f.labels.flatMap LabelReport.line

/-- The line of some hooks; no line if there are none. -/
def ScriptReport.hookLine (title : String) (hooks : List Text) : Text :=
  if hooks.isEmpty then [] else title.toList ++ Text.commaList hooks ++ ['\n']

/-- The lines of a script. -/
def ScriptReport.lines (s : ScriptReport) : Text :=
  "script ".toList ++ s.path ++ (if s.includeOnce then " [include-once]".toList else []) ++
    '\n' :: s.functions.flatMap FuncReport.lines ++
    hookLine "  startup: " s.startup ++ hookLine "  exit: " s.exit

/-- The line of a fault. -/
def FaultReport.line (r : FaultReport) : Text :=
  "error ".toList ++ r.fault.key ++ " at ".toList ++ r.fault.span.display ++
    (if r.fault.args.isEmpty then []
      else " (".toList ++ Text.commaList r.fault.args ++ [')']) ++
    " while scanning ".toList ++ r.file ++ ['\n']

/-- The report as text. -/
def Report.text (r : Report) : Text :=
  r.scripts.flatMap ScriptReport.lines ++ r.faults.flatMap FaultReport.line

/-! ## Documents -/

/-- A label as a document. -/
def LabelReport.toJson (l : LabelReport) : Json :=
  Json.record [("name", .string l.name), ("location", l.span.toJson)]

/-- A function as a document. -/
def FuncReport.toJson (f : FuncReport) : Json :=
  Json.record [("name", .string f.name), ("location", f.span.toJson),
    ("volatile", .bool f.isVolatile), ("parameters", .array (f.params.map Param.toJson)),
    ("lineCount", .nat f.lineCount), ("labels", .array (f.labels.map LabelReport.toJson))]

/-- A script as a document. -/
def ScriptReport.toJson (s : ScriptReport) : Json :=
  Json.record [("path", .string s.path), ("includeOnce", .bool s.includeOnce),
    ("functions", .array (s.functions.map FuncReport.toJson)),
    ("startupFunctions", .strings s.startup), ("exitFunctions", .strings s.exit)]

/-- A fault as a document. -/
def FaultReport.toJson (r : FaultReport) : Json :=
  Json.record [("file", .string r.file), ("key", .string r.fault.key),
    ("location", r.fault.span.toJson), ("args", .strings r.fault.args)]

/-- The report as a document. -/
def Report.toJson (r : Report) : Json :=
  Json.record [("scripts", .array (r.scripts.map ScriptReport.toJson)),
    ("errors", .array (r.faults.map FaultReport.toJson))]

end ScriptScan
