import ScriptScan.Text.Basic

/-!
# The shortest decimal

A double is written with the fewest decimal digits that read back as the same double, and of those
the nearest to it; two equally near ones go to the larger. The digits are never followed by an
exponent: zeros fill the places up to the point.

A positive double is a significand times a power of two, and the reals that round to it form an
interval whose ends belong to it when the significand is even. For one digit, two digits and so on,
the two multiples of the power of ten around the double are tested for lying in that interval.
-/

namespace ScriptScan

namespace Decimal

/-! ## Doubles as ratios -/

/-- A positive finite double: its value and the ends of the interval that rounds to it, over one
denominator, and whether the ends belong to the interval. -/
structure Rounding where
  value : Nat
  low : Nat
  high : Nat
  den : Nat
  closed : Bool

/-- The rounding interval of the double with the given exponent field and fraction field. -/
def Rounding.ofFields (exponent fraction : Nat) : Rounding :=
  let m := if exponent = 0 then fraction else Nat.pow 2 52 + fraction
  let q : Int := (max exponent 1 : Nat) - 1075
  -- everything is counted in quarters of the last bit
  let scale := Nat.pow 2 (q - 2).toNat
  let below := if fraction = 0 ∧ 1 < exponent then 1 else 2
  { value := 4 * m * scale
    low := (4 * m - below) * scale
    high := (4 * m + 2) * scale
    den := Nat.pow 2 (2 - q).toNat
    closed := m % 2 == 0 }

/-- Whether the given multiple of a ratio of natural numbers rounds to the double. -/
def Rounding.covers (r : Rounding) (n num den : Nat) : Bool :=
  let here := n * num * r.den
  if r.closed then r.low * den ≤ here && here ≤ r.high * den
  else r.low * den < here && here < r.high * den

/-! ## The search -/

/-- The multiples of `10 ^ k` on both sides of the double that round to it: the nearer one, if there
is one. -/
def Rounding.onGrid? (r : Rounding) (k : Int) : Option Nat :=
  let num := Nat.pow 10 k.toNat
  let den := Nat.pow 10 (-k).toNat
  let n := r.value * den / (num * r.den)
  match r.covers n num den, r.covers (n + 1) num den with
  | true, true =>
    if (2 * n + 1) * num * r.den ≤ 2 * r.value * den then some (n + 1) else some n
  | true, false => some n
  | false, true => some (n + 1)
  | false, false => none

/-- The place of the first digit of the double: the greatest power of ten not above it. -/
def Rounding.firstPlace (r : Rounding) : Int :=
  if r.den ≤ r.value then ((Nat.toDigits 10 (r.value / r.den)).length : Int) - 1
  else
    match (List.range 400).find? fun j => r.den ≤ r.value * Nat.pow 10 j with
    | some j => -(j : Int)
    | none => 0

/-- The shortest digits of a positive double, and the place of the last of them. -/
def Rounding.shortest (r : Rounding) : Nat × Int :=
  let first := r.firstPlace
  let grids := (List.range 17).map fun (i : Nat) => first - (i : Int)
  (grids.findSome? fun k => (r.onGrid? k).map (·, k)).getD (0, 0)

/-! ## Writing -/

/-- Digits whose last one stands at the given place, written with zeros and a point and without an
exponent. -/
def positional (digits : Nat) (place : Int) : Text :=
  let all := Nat.toDigits 10 digits
  let zeros := (all.reverse.takeWhile (· == '0')).length
  let ds := all.take (all.length - zeros)
  let k := place + zeros
  if 0 ≤ k then ds ++ List.replicate k.toNat '0'
  else
    let after := (-k).toNat
    if after < ds.length then ds.take (ds.length - after) ++ '.' :: ds.drop (ds.length - after)
    else "0.".toList ++ List.replicate (after - ds.length) '0' ++ ds

/-- The written form of a double. -/
def display (x : Float) : Text :=
  let bits := x.toBits.toNat
  let sign := if Nat.pow 2 63 ≤ bits then ['-'] else []
  let exponent := bits / Nat.pow 2 52 % 2048
  let fraction := bits % Nat.pow 2 52
  if exponent = 2047 then
    if fraction = 0 then sign ++ "inf".toList else "NaN".toList
  else if exponent = 0 ∧ fraction = 0 then sign ++ ['0']
  else
    let (digits, place) := (Rounding.ofFields exponent fraction).shortest
    sign ++ positional digits place

end Decimal

end ScriptScan
