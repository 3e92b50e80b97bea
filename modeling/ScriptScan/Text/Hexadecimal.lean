import ScriptScan.Text.Basic

/-!
# Hexadecimal digits

Digits above nine are the letters a to f, in either case.
-/

namespace ScriptScan

namespace Hexadecimal

/-- The value of a digit. -/
def digit? (c : Char) : Option Nat :=
  if c.isDigit then some (c.toNat - '0'.toNat)
  else if 'a' ≤ c ∧ c ≤ 'f' then some (c.toNat - 'a'.toNat + 10)
  else if 'A' ≤ c ∧ c ≤ 'F' then some (c.toNat - 'A'.toNat + 10)
  else none

/-- The value of some digits, the most significant first. -/
def value? (ds : Text) : Option Nat :=
  ds.foldlM (fun n d => (digit? d).map (16 * n + ·)) 0

end Hexadecimal

end ScriptScan
