import ScriptScan.Json

/-!
# Writing JSON

Strings escape quotes, backslashes and control characters and nothing else. A document is written
either in one piece or over indented lines, where an empty list stays on its line.
-/

namespace ScriptScan

namespace Json

/-! ## Strings and numbers -/

/-- The two lower-case hexadecimal digits of a code point below 256. -/
def hexPair (n : Nat) : Text :=
  [Nat.digitChar (n / 16 % 16), Nat.digitChar (n % 16)]

/-- A character as it stands between the quotes of a string. -/
def escapeChar (c : Char) : Text :=
  match c with
  | '"' => ['\\', '"']
  | '\\' => ['\\', '\\']
  | '\x08' => ['\\', 'b']
  | '\x0c' => ['\\', 'f']
  | '\n' => ['\\', 'n']
  | '\r' => ['\\', 'r']
  | '\t' => ['\\', 't']
  | c => if c < ' ' then "\\u00".toList ++ hexPair c.toNat else [c]

/-- A text as a string of a document. -/
def quote (t : Text) : Text :=
  '"' :: t.flatMap escapeChar ++ ['"']

/-- A number as it was written. -/
def numberText (n : NumberText) : Text :=
  (if n.negative then ['-'] else []) ++ n.whole ++
    (if n.fraction.isEmpty then [] else '.' :: n.fraction) ++
    match n.exponent? with
    | some (negative, digits) => 'e' :: (if negative then ['-'] else []) ++ digits
    | none => []

/-- The name of a field. -/
def fieldName (name : Option Text) : Text :=
  quote (name.getD [])

/-! ## One piece -/

mutual

/-- The document without any white space. -/
def compact : Json → Text
  | null => "null".toList
  | bool b => if b then "true".toList else "false".toList
  | number n => numberText n
  | string s => quote s
  | brokenString => quote []
  | array items => '[' :: [','].intercalate (compactItems items) ++ [']']
  | object fields => '\x7b' :: [','].intercalate (compactFields fields) ++ ['\x7d']

/-- The items of an array, each in one piece. -/
def compactItems : List Json → List Text
  | [] => []
  | x :: xs => compact x :: compactItems xs

/-- The fields of an object, each in one piece. -/
def compactFields : List (Option Text × Json) → List Text
  | [] => []
  | (name, x) :: xs => (fieldName name ++ ':' :: compact x) :: compactFields xs

end

/-! ## Indented lines -/

/-- A new line with two spaces for each level. -/
def newLine (level : Nat) : Text :=
  '\n' :: List.replicate (2 * level) ' '

/-- Items between brackets, each on a line of its own one level deeper. -/
def bracketed (level : Nat) (left right : Char) (items : List Text) : Text :=
  if items.isEmpty then [left, right]
  else
    left :: newLine (level + 1) ++ (',' :: newLine (level + 1)).intercalate items ++
      newLine level ++ [right]

mutual

/-- The document over indented lines, at the given level. -/
def prettyAt (level : Nat) : Json → Text
  | array items => bracketed level '[' ']' (prettyItems level items)
  | object fields => bracketed level '\x7b' '\x7d' (prettyFields level fields)
  | null => compact null
  | bool b => compact (bool b)
  | number n => compact (number n)
  | string s => compact (string s)
  | brokenString => compact brokenString

/-- The items of an array, one level deeper. -/
def prettyItems (level : Nat) : List Json → List Text
  | [] => []
  | x :: xs => prettyAt (level + 1) x :: prettyItems level xs

/-- The fields of an object, one level deeper. -/
def prettyFields (level : Nat) : List (Option Text × Json) → List Text
  | [] => []
  | (name, x) :: xs =>
    (fieldName name ++ ": ".toList ++ prettyAt (level + 1) x) :: prettyFields level xs

end

/-- The document over indented lines. -/
def pretty (j : Json) : Text :=
  prettyAt 0 j

end Json

end ScriptScan
