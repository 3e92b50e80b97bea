import ScriptScan.Json
import ScriptScan.Text.Hexadecimal

/-!
# Reading JSON

The reader takes exactly one document with white space around it. It builds the document without
judging it: which numbers are in range and which fields are expected is for those who decode it.
-/

namespace ScriptScan

namespace Json

/-- The white space of JSON. -/
def isSpace (c : Char) : Bool :=
  c == ' ' || c == '\n' || c == '\t' || c == '\r'

/-- The text from its first character that is not white space. -/
def skipSpace (t : Text) : Text :=
  t.dropWhile isSpace

/-! ## Strings -/

/-- The character that a letter after a backslash stands for. -/
def escaped? : Char → Option Char
  | '"' => some '"'
  | '\\' => some '\\'
  | '/' => some '/'
  | 'b' => some '\x08'
  | 'f' => some '\x0c'
  | 'n' => some '\n'
  | 'r' => some '\r'
  | 't' => some '\t'
  | _ => none

/-- The code points of a string after its opening quote, surrogates standing alone, and the rest
after its closing quote. -/
def readUnits? : Text → Option (List Nat × Text)
  | [] => none
  | '"' :: t => some ([], t)
  | '\\' :: 'u' :: a :: b :: c :: d :: t => do
    let n ← Hexadecimal.value? [a, b, c, d]
    let (ns, rest) ← readUnits? t
    some (n :: ns, rest)
  | '\\' :: e :: t => do
    let c ← escaped? e
    let (ns, rest) ← readUnits? t
    some (c.toNat :: ns, rest)
  | c :: t =>
    if c < ' ' ∨ c = '\\' then none
    else (readUnits? t).map fun (ns, rest) => (c.toNat :: ns, rest)

/-- The text of some code points, surrogate pairs joined; none if half of a pair stands alone. -/
def joinUnits? : List Nat → Option Text
  | [] => some []
  | [n] => if 0xD800 ≤ n ∧ n < 0xE000 then none else some [Char.ofNat n]
  | n :: m :: ns =>
    if 0xD800 ≤ n ∧ n < 0xDC00 then
      if 0xDC00 ≤ m ∧ m < 0xE000 then
        (joinUnits? ns).map (Char.ofNat (0x10000 + (n - 0xD800) * 0x400 + (m - 0xDC00)) :: ·)
      else none
    else if 0xDC00 ≤ n ∧ n < 0xE000 then none
    else (joinUnits? (m :: ns)).map (Char.ofNat n :: ·)

/-! ## Numbers -/

/-- The digits at the start of a text, at least one, and the rest. -/
def readDigits? (t : Text) : Option (Text × Text) :=
  if (t.takeWhile Char.isDigit).isEmpty then none
  else some (t.takeWhile Char.isDigit, t.dropWhile Char.isDigit)

/-- The fraction of a number, if the text begins with one. -/
def readFraction? : Text → Option (Text × Text)
  | '.' :: t => readDigits? t
  | t => some ([], t)

/-- The exponent of a number, if the text begins with one. -/
def readExponent? (t : Text) : Option (Option (Bool × Text) × Text) :=
  match t with
  | [] => some (none, [])
  | c :: u =>
    if c = 'e' ∨ c = 'E' then
      let (negative, ds) := match u with
        | '-' :: v => (true, v)
        | '+' :: v => (false, v)
        | _ => (false, u)
      (readDigits? ds).map fun (digits, rest) => (some (negative, digits), rest)
    else some (none, t)

/-- The digits before the point: no superfluous zero leads them. -/
def readWhole? (t : Text) : Option (Text × Text) :=
  match readDigits? t with
  | some ('0' :: _ :: _, _) => none
  | r => r

/-- A number, and the rest. -/
def readNumber? (t : Text) : Option (NumberText × Text) := do
  let (negative, t) := match t with
    | '-' :: u => (true, u)
    | _ => (false, t)
  let (whole, t) ← readWhole? t
  let (fraction, t) ← readFraction? t
  let (exponent?, t) ← readExponent? t
  some (⟨negative, whole, fraction, exponent?⟩, t)

/-! ## Documents -/

/-- The rest after an exact word. -/
def dropWord? : Text → (word : Text) → Option Text
  | t, [] => some t
  | [], _ :: _ => none
  | c :: t, w :: ws => if c = w then dropWord? t ws else none

/-- The rest after white space and an exact character. -/
def dropMark? (mark : Char) (t : Text) : Option Text :=
  match skipSpace t with
  | [] => none
  | c :: u => if c = mark then some u else none

mutual

/-- A document, and the rest. The first argument bounds the number of steps. -/
def readValue? : Nat → Text → Option (Json × Text)
  | 0, _ => none
  | n + 1, t =>
    match skipSpace t with
    | '"' :: u => (readUnits? u).map fun (units, rest) =>
      (match joinUnits? units with | some s => string s | none => brokenString, rest)
    | '[' :: u =>
      match dropMark? ']' u with
      | some rest => some (array [], rest)
      | none => (readItems? n u).map fun (items, rest) => (array items, rest)
    | '\x7b' :: u =>
      match dropMark? '\x7d' u with
      | some rest => some (object [], rest)
      | none => (readFields? n u).map fun (fields, rest) => (object fields, rest)
    | 'n' :: u => (dropWord? u "ull".toList).map fun rest => (null, rest)
    | 't' :: u => (dropWord? u "rue".toList).map fun rest => (bool true, rest)
    | 'f' :: u => (dropWord? u "alse".toList).map fun rest => (bool false, rest)
    | u => (readNumber? u).map fun (x, rest) => (number x, rest)

/-- The items of an array up to its closing bracket. -/
def readItems? : Nat → Text → Option (List Json × Text)
  | 0, _ => none
  | n + 1, t => do
    let (item, t) ← readValue? n t
    match dropMark? ',' t with
    | some u =>
      let (items, rest) ← readItems? n u
      some (item :: items, rest)
    | none =>
      let rest ← dropMark? ']' t
      some ([item], rest)

/-- The fields of an object up to its closing brace. -/
def readFields? : Nat → Text → Option (List (Option Text × Json) × Text)
  | 0, _ => none
  | n + 1, t => do
    let u ← dropMark? '"' t
    let (units, t) ← readUnits? u
    let t ← dropMark? ':' t
    let (value, t) ← readValue? n t
    match dropMark? ',' t with
    | some u =>
      let (fields, rest) ← readFields? n u
      some ((joinUnits? units, value) :: fields, rest)
    | none =>
      let rest ← dropMark? '\x7d' t
      some ([(joinUnits? units, value)], rest)

end

/-- The document that a text is. Every step but the first follows a character read, so twice the
length of the text bounds them. -/
def parse? (t : Text) : Option Json :=
  match readValue? (2 * t.length + 2) t with
  | some (value, rest) => if (skipSpace rest).isEmpty then some value else none
  | none => none

end Json

end ScriptScan
