import ScriptScan.Fault
import ScriptScan.Value

/-!
# Results of calls

A call of a function succeeds, fails in the script's own sense, or is fatal. A script-level error is
ordinary data: it has a value and a code, and perhaps an extended value. A fatal result stops the
interpreter and carries a fault.
-/

namespace ScriptScan

/-- The result of a call. -/
inductive CallResult where
  /-- The call cannot go on. -/
  | fatal (fault : Fault)
  /-- The call returned, perhaps with an extended value. -/
  | success (value : Value) (extended? : Option Value)
  /-- The call returned an error of the script, perhaps with an extended value. -/
  | failure (value : Value) (code : Int) (extended? : Option Value)

namespace CallResult

/-- The code of an error that has an extended value and no code of its own. -/
def extendedCode : Int := -1

/-- A call that returned a value. -/
def returned (value : Value) : CallResult :=
  success value none

/-- An error with a code alone. -/
def ofCode (code : Int) : CallResult :=
  failure (.boolean false) code none

/-- An error with a value, an extended value, and perhaps a code. -/
def withExtended (value : Value) (code? : Option Int) (extended : Value) : CallResult :=
  failure value (code?.getD extendedCode) (some extended)

/-- The fault of a fatal result. -/
def fault? : CallResult → Option Fault
  | fatal f => some f
  | _ => none

/-- The value, the code and the extended value of an error of the script. -/
def failure? : CallResult → Option (Value × Int × Option Value)
  | failure value code extended? => some (value, code, extended?)
  | _ => none

/-- The value and the extended value of a success. -/
def success? : CallResult → Option (Value × Option Value)
  | success value extended? => some (value, extended?)
  | _ => none

/-- The value that the script sees, error or not. -/
def value? : CallResult → Option Value
  | fatal _ => none
  | success value _ => some value
  | failure value _ _ => some value

/-- Whether two optional values are equal. -/
def sameExtended : Option Value → Option Value → Bool
  | none, none => true
  | some v, some w => v.same w
  | _, _ => false

/-- Whether two results are equal. -/
def same : CallResult → CallResult → Bool
  | fatal f, fatal g => f.same g
  | success v x, success w y => v.same w && sameExtended x y
  | failure v c x, failure w d y => v.same w && c == d && sameExtended x y
  | _, _ => false

end CallResult

end ScriptScan
