import ScriptScan.Text.Basic

/-!
# The nearest double

A positive ratio of natural numbers goes to the double nearest to it, a tie to the one with an even
significand. All arithmetic is exact: the ratio is divided by the power of two that leaves 53 bits
of quotient, or by the smallest power there is, and the quotient is rounded once.
-/

namespace ScriptScan

namespace Decimal

/-- The natural number nearest to a ratio; a tie goes to the even one. -/
def roundDiv (num den : Nat) : Nat :=
  let q := num / den
  let twice := 2 * (num % den)
  if twice < den then q
  else if den < twice then q + 1
  else q + q % 2

/-- The exponent of two of the last bit of a double near a positive ratio: the one that leaves 53
bits before it, and never less than that of the smallest double. -/
def lastBit (num den : Nat) : Int :=
  let guess : Int := (num.log2 : Int) - (den.log2 : Int) - 53
  let fits : Bool :=
    if 0 ≤ guess then num / (den * Nat.pow 2 guess.toNat) < Nat.pow 2 53
    else num * Nat.pow 2 (-guess).toNat / den < Nat.pow 2 53
  max (if fits then guess else guess + 1) (-1074)

/-- The bits of the double nearest to a ratio. A ratio beyond all doubles goes to infinity. -/
def nearestBits (num den : Nat) : UInt64 :=
  if num = 0 then 0
  else
    let q := lastBit num den
    let m :=
      if 0 ≤ q then roundDiv num (den * Nat.pow 2 q.toNat)
      else roundDiv (num * Nat.pow 2 (-q).toNat) den
    UInt64.ofNat (min ((q + 1074).toNat * Nat.pow 2 52 + m) (2047 * Nat.pow 2 52))

/-- The double nearest to a whole number times a power of ten. -/
def toFloat (digits : Nat) (exponent : Int) : Float :=
  Float.ofBits <|
    if 0 ≤ exponent then nearestBits (digits * Nat.pow 10 exponent.toNat) 1
    else nearestBits digits (Nat.pow 10 (-exponent).toNat)

/-- The number that some decimal digits spell. -/
def ofDigits (ds : Text) : Nat :=
  ds.foldl (fun n d => 10 * n + (d.toNat - '0'.toNat)) 0

/-- The double nearest to digits before and after a point, times a power of ten. Numbers far beyond
the range of doubles are settled by the place of their first digit. -/
def ofParts (whole fraction : Text) (exponent : Int) : Float :=
  let digits := (whole ++ fraction).dropWhile (· == '0')
  let scale := exponent - fraction.length
  let first := scale + digits.length
  if digits.isEmpty ∨ first < -400 then 0
  else if 400 < first then Float.ofBits (UInt64.ofNat (2047 * Nat.pow 2 52))
  else toFloat (ofDigits digits) scale

/-! ## Numbers in text -/

/-- An optional sign: whether it is a minus, and the rest. -/
def readSign : Text → Bool × Text
  | '-' :: t => (true, t)
  | '+' :: t => (false, t)
  | t => (false, t)

/-- The exponent that a text is, if it is empty or a letter e with a whole number. -/
def readScale? : Text → Option Int
  | [] => some 0
  | c :: t =>
    let (negative, ds) := readSign t
    if (c == 'e' || c == 'E') && !ds.isEmpty && ds.all Char.isDigit then
      some (if negative then -(ofDigits ds : Int) else ofDigits ds)
    else none

/-- The number that a text without a sign is. -/
def readMagnitude? (t : Text) : Option Float :=
  if Text.sameIgnoringCase t "inf".toList || Text.sameIgnoringCase t "infinity".toList then
    some (1 / 0)
  else if Text.sameIgnoringCase t "nan".toList then
    some (0 / 0)
  else
    let whole := t.takeWhile Char.isDigit
    let rest := t.dropWhile Char.isDigit
    let (fraction, rest) := match rest with
      | '.' :: u => (u.takeWhile Char.isDigit, u.dropWhile Char.isDigit)
      | _ => ([], rest)
    if whole.isEmpty && fraction.isEmpty then none
    else (readScale? rest).map (ofParts whole fraction)

/-- The number that a text is, rounded to the nearest double. -/
def read? (t : Text) : Option Float :=
  let (negative, t) := readSign t
  (readMagnitude? t).map fun x => if negative then -x else x

end Decimal

end ScriptScan
