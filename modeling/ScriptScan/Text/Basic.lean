import ScriptScan.Text.Blank

/-!
# Text

Text is a list of characters, so that what reads it recurses on it. This module holds what every
reader needs: cutting white space off the ends, cutting into lines and at a character, counting
bytes, and the decimal form of a number.
-/

namespace ScriptScan

/-- A text: its characters in order. -/
abbrev Text := List Char

namespace Text

/-! ## White space at the ends -/

/-- The text from its first character that is not white space. -/
def trimStart (t : Text) : Text :=
  t.dropWhile isBlank

/-- The text up to its last character that is not white space. -/
def trimEnd (t : Text) : Text :=
  (t.reverse.dropWhile isBlank).reverse

/-- The text without the white space at its ends. -/
def trim (t : Text) : Text :=
  t.trimStart.trimEnd

/-- Whether the text holds nothing but white space. -/
def isBlankText (t : Text) : Bool :=
  t.all isBlank

/-! ## Cutting -/

/-- The lines of a text. A line feed ends a line, together with a carriage return directly before
it; after the last line feed there is a line only if there is text. -/
def lines : Text → List Text
  | [] => []
  | '\n' :: t => [] :: lines t
  | '\r' :: '\n' :: t => [] :: lines t
  | c :: t =>
    match lines t with
    | [] => [[c]]
    | l :: ls => (c :: l) :: ls

/-- The pieces between the occurrences of a character; there is always at least one. -/
def splitOn (sep : Char) : Text → List Text
  | [] => [[]]
  | c :: t =>
    if c = sep then [] :: splitOn sep t
    else
      match splitOn sep t with
      | [] => [[c]]
      | p :: ps => (c :: p) :: ps

/-- The text before and after the first occurrence of a character. -/
def splitFirst? (sep : Char) : Text → Option (Text × Text)
  | [] => none
  | c :: t =>
    if c = sep then some ([], t)
    else (splitFirst? sep t).map fun (before, after) => (c :: before, after)

/-- The text before and after the last occurrence of a character. -/
def splitLast? (sep : Char) (t : Text) : Option (Text × Text) :=
  (splitFirst? sep t.reverse).map fun (after, before) => (before.reverse, after.reverse)

/-! ## Comparing and composing -/

/-- Whether two texts are the same up to the case of the letters a to z. -/
def sameIgnoringCase (a b : Text) : Bool :=
  a.map Char.toLower == b.map Char.toLower

/-- Whether a part stands somewhere in the text. -/
def includes (t part : Text) : Bool :=
  match t with
  | [] => part.isEmpty
  | c :: rest => part.isPrefixOf (c :: rest) || includes rest part

/-- Texts one after the other with a comma and a space between them. -/
def commaList (ts : List Text) : Text :=
  [',', ' '].intercalate ts

/-- How many bytes the text has in UTF-8. -/
def byteLength (t : Text) : Nat :=
  t.foldl (fun n c => n + c.utf8Size) 0

/-- The decimal digits of a number. -/
def ofNat (n : Nat) : Text :=
  Nat.toDigits 10 n

end Text

end ScriptScan
