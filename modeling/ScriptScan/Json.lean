import ScriptScan.Text.Basic

/-!
# JSON documents

A document is kept as it was written: numbers by their digits, fields in order and with
repetitions. A string whose escapes spell no text, because half of a surrogate pair stands alone, is
allowed where nobody looks at it.
-/

namespace ScriptScan

/-- A number as it is written. -/
structure NumberText where
  negative : Bool := false
  whole : Text
  fraction : Text := []
  /-- Whether there is an exponent, whether it is negative, and its digits. -/
  exponent? : Option (Bool × Text) := none
deriving DecidableEq, Repr

/-- A JSON document. -/
inductive Json where
  | null
  | bool (b : Bool)
  | number (n : NumberText)
  | string (s : Text)
  /-- A string that spells no text. -/
  | brokenString
  | array (items : List Json)
  | object (fields : List (Option Text × Json))
deriving Repr, Inhabited

namespace Json

/-- The document of a natural number. -/
def nat (n : Nat) : Json :=
  number { whole := Text.ofNat n }

/-- An object with the given fields, in order. -/
def record (fields : List (String × Json)) : Json :=
  object (fields.map fun (name, value) => (some name.toList, value))

/-- A list of strings. -/
def strings (ts : List Text) : Json :=
  array (ts.map string)

/-- A string, or null. -/
def string? : Option Text → Json
  | some s => string s
  | none => null

/-- The last field of a name. -/
def field? (name : String) : Json → Option Json
  | object fields => fields.reverse.lookup (some name.toList)
  | _ => none

end Json

end ScriptScan
