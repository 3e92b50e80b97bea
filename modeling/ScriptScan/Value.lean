import ScriptScan.Decimal.Shortest
import ScriptScan.Json.Number

/-!
# Values

What scripts and the functions of the host hand to each other: nothing, truth values, numbers,
texts, lists and maps. A map keeps its entries in the order of their keys.
-/

namespace ScriptScan

/-- A value. -/
inductive Value where
  | null
  | boolean (b : Bool)
  | number (x : Float)
  | string (t : Text)
  | array (items : List Value)
  | map (entries : List (Text × Value))
deriving Inhabited

namespace Value

/-- The name of the kind of a value. -/
def kind : Value → Text
  | null => "null".toList
  | boolean _ => "boolean".toList
  | number _ => "number".toList
  | string _ => "string".toList
  | array _ => "array".toList
  | map _ => "map".toList

/-- The text of a value that is one. -/
def text? : Value → Option Text
  | string t => some t
  | _ => none

/-- The number of a value that is one. -/
def number? : Value → Option Float
  | number x => some x
  | _ => none

/-- The written form. Of a list or a map it tells the size only. -/
def display : Value → Text
  | null => []
  | boolean b => if b then "True".toList else "False".toList
  | number x => Decimal.display x
  | string t => t
  | array items => "<array[".toList ++ Text.ofNat items.length ++ "]>".toList
  | map entries => "<map[".toList ++ Text.ofNat entries.length ++ "]>".toList

/-! ## Equality

Numbers are compared as numbers: zero equals minus zero, and what is not a number equals nothing. -/

mutual

/-- Whether two values are equal. -/
def same : Value → Value → Bool
  | null, null => true
  | boolean a, boolean b => a == b
  | number x, number y => x == y
  | string s, string t => s == t
  | array xs, array ys => sameItems xs ys
  | map xs, map ys => sameEntries xs ys
  | _, _ => false

/-- Whether two lists hold equal values in the same order. -/
def sameItems : List Value → List Value → Bool
  | [], [] => true
  | x :: xs, y :: ys => same x y && sameItems xs ys
  | _, _ => false

/-- Whether two maps hold equal values under the same keys. -/
def sameEntries : List (Text × Value) → List (Text × Value) → Bool
  | [], [] => true
  | (k, x) :: xs, (l, y) :: ys => k == l && same x y && sameEntries xs ys
  | _, _ => false

end

/-! ## Values of documents -/

/-- The entries of a map with one of them set. -/
def setEntry (key : Text) (x : Value) : List (Text × Value) → List (Text × Value)
  | [] => [(key, x)]
  | (k, y) :: rest =>
    match compare key k with
    | .lt => (key, x) :: (k, y) :: rest
    | .eq => (key, x) :: rest
    | .gt => (k, y) :: setEntry key x rest

mutual

/-- The value of a document that has at most `room` levels of lists and objects. -/
def ofJsonWithin? (room : Nat) : Json → Option Value
  | .null => some null
  | .bool b => some (boolean b)
  | .number n => n.toFloat?.map number
  | .string s => some (string s)
  | .brokenString => none
  | .array items =>
    match room with
    | 0 => none
    | room + 1 => (itemsOfJson? room items).map array
  | .object fields =>
    match room with
    | 0 => none
    | room + 1 => (entriesOfJson? room [] fields).map map

/-- The values of the items of a list. -/
def itemsOfJson? (room : Nat) : List Json → Option (List Value)
  | [] => some []
  | x :: xs =>
    match ofJsonWithin? room x, itemsOfJson? room xs with
    | some v, some vs => some (v :: vs)
    | _, _ => none

/-- Some entries, and after them those of the fields of an object. -/
def entriesOfJson? (room : Nat) (entries : List (Text × Value)) :
    List (Option Text × Json) → Option (List (Text × Value))
  | [] => some entries
  | (name, x) :: fields =>
    match name, ofJsonWithin? room x with
    | some key, some v => entriesOfJson? room (setEntry key v entries) fields
    | _, _ => none

end

/-- The greatest depth of a document that is a value. -/
def maxDepth : Nat := 127

/-- The value of a document. Of fields with one name the last counts. -/
def ofJson? (j : Json) : Option Value :=
  ofJsonWithin? maxDepth j

end Value

end ScriptScan
