import ScriptScan.Json
import ScriptScan.Decimal.Nearest

/-!
# The value of a number

A number of a document becomes a double. An integer of at most 64 bits is rounded once. Any other
number is the leading digits that fit into 64 bits, rounded, and then multiplied or divided by a
power of ten in floating-point arithmetic; the digits after them are dropped. A number beyond all
doubles has no value.
-/

namespace ScriptScan

namespace NumberText

/-- As many of the digits as fit behind `n` into 64 bits, and how many they are. -/
def absorb (n : Nat) : Text → Nat × Nat
  | [] => (n, 0)
  | d :: ds =>
    let next := 10 * n + (d.toNat - '0'.toNat)
    if next < Nat.pow 2 64 then
      let (m, used) := absorb next ds
      (m, used + 1)
    else (n, 0)

/-- The number times a power of ten. A power beyond the table of doubles is reached in steps. -/
def scaled? (x : Float) (e : Int) : Option Float :=
  if e < -308 then
    if x == 0 then some x else scaled? (x / Decimal.toFloat 1 308) (e + 308)
  else if e < 0 then some (x / Decimal.toFloat 1 (-e))
  else if e ≤ 308 then
    let y := x * Decimal.toFloat 1 e
    if y.isInf then none else some y
  else if x == 0 then some x
  else none
termination_by (-e).toNat

/-- The greatest exponent that is counted exactly. -/
def maxExponent : Nat := Nat.pow 2 31 - 1

/-- The value without its sign. -/
def magnitude? (n : NumberText) : Option Float :=
  let (lead, used) := absorb 0 n.whole
  let (lead, fractionUsed) := absorb lead n.fraction
  let dropped := n.whole.length - used
  let scale : Int := dropped - fractionUsed
  let x := Decimal.toFloat lead 0
  match n.exponent? with
  | none => scaled? x scale
  | some (negative, digits) =>
    let e := Decimal.ofDigits digits
    if e ≤ maxExponent then
      let shifted := if negative then scale - e else scale + e
      scaled? x (max (-(maxExponent : Int) - 1) (min maxExponent shifted))
    else if lead = 0 ∨ negative then some 0
    else none

/-- The value of a number, if it is one. -/
def toFloat? (n : NumberText) : Option Float :=
  n.magnitude?.map fun x => if n.negative then -x else x

/-- The value of a number that is written as a natural number of at most 64 bits. -/
def toNat? (n : NumberText) : Option Nat :=
  let value := Decimal.ofDigits n.whole
  if !n.negative && n.fraction.isEmpty && n.exponent?.isNone && value < Nat.pow 2 64 then
    some value
  else none

end NumberText

end ScriptScan
