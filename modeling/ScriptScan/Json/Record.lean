import ScriptScan.Json.Number
import ScriptScan.Span
import ScriptScan.Param

/-!
# Spans, variables and parameters as documents

A record is written as an object with its fields in a fixed order. It is read from an object that
has each of its fields once, in any order and among others, or from a list of exactly its fields.
Nothing is converted: a number is not read where a string is asked for.
-/

namespace ScriptScan

namespace Json

/-- The only field of a name; no answer if there are two of them. -/
def soleField? (name : Text) (fields : List (Option Text × Json)) : Option (Option Json) :=
  match fields.filter fun (n, _) => n == some name with
  | [] => some none
  | [(_, value)] => some (some value)
  | _ => none

/-- The fields of a record, in the order of their names. An object may leave some out. -/
def recordFields? (names : List String) : Json → Option (List (Option Json))
  | object fields =>
    if fields.any fun (name, _) => name.isNone then none
    else names.mapM fun name => soleField? name.toList fields
  | array items => if items.length = names.length then some (items.map some) else none
  | _ => none

/-- The text of a string. -/
def toText? : Json → Option Text
  | string s => some s
  | _ => none

/-- The value of a boolean. -/
def toBool? : Json → Option Bool
  | bool b => some b
  | _ => none

/-- The value of a natural number of at most 64 bits. -/
def toNat? : Json → Option Nat
  | number n => n.toNat?
  | _ => none

end Json

namespace Span

/-- The fields of a written span. -/
def fieldNames : List String := ["file", "start_line", "end_line"]

/-- A span as a document. -/
def toJson (s : Span) : Json :=
  Json.record [("file", .string s.file), ("start_line", .nat s.first), ("end_line", .nat s.last)]

/-- The span that a document is. -/
def ofJson? (j : Json) : Option Span :=
  match j.recordFields? fieldNames with
  | some [some file, some first, some last] => do
    some ⟨← file.toText?, ← first.toNat?, ← last.toNat?⟩
  | _ => none

end Span

namespace Variable

/-- A variable as a document. -/
def toJson (v : Variable) : Json :=
  Json.record [("name", .string v.name)]

/-- The variable that a document is. -/
def ofJson? (j : Json) : Option Variable :=
  match j.recordFields? ["name"] with
  | some [some name] => do some ⟨← name.toText?⟩
  | _ => none

end Variable

namespace Param

/-- The fields of a written parameter. -/
def fieldNames : List String := ["variable", "is_byref", "is_const", "default_value"]

/-- A parameter as a document. -/
def toJson (p : Param) : Json :=
  Json.record [("variable", p.var.toJson), ("is_byref", .bool p.byRef),
    ("is_const", .bool p.isConst), ("default_value", .string? p.default?)]

/-- The default value that a field is; a field left out, or null, stands for none. -/
def defaultOfJson? : Option Json → Option (Option Text)
  | none => some none
  | some .null => some none
  | some j => j.toText?.map some

/-- The parameter that a document is. -/
def ofJson? (j : Json) : Option Param :=
  match j.recordFields? fieldNames with
  | some [some var, some byRef, some isConst, default?] => do
    some ⟨← Variable.ofJson? var, ← byRef.toBool?, ← isConst.toBool?, ← defaultOfJson? default?⟩
  | _ => none

end Param

end ScriptScan
