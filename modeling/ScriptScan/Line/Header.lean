import ScriptScan.Text.Keyword
import ScriptScan.Text.Literal

/-!
# One-line forms

Two statements may be written on one line with what they govern: an if with its statement behind
the word then, and a function with its body behind an arrow. This module finds the place where such
a line is cut in two.
-/

namespace ScriptScan

namespace Text

/-! ## If -/

/-- Whether a word character is the last of the text. -/
def endsInWord (t : Text) : Bool :=
  match t.getLast? with
  | some c => isWord c
  | none => false

/-- The word then at the start of a text, as written, and the text after it. -/
def readThen? (t : Text) : Option (Text × Text) :=
  (t.dropWholeWord? "then".toList).map fun rest => (t.take 4, rest)

/-- The header and the statement of a one-line if, with `before` the text read so far. The line is
cut behind the first whole word then that stands outside string literals and has text after it. -/
def splitAtThen? (before : Text) : Text → Option (Text × Text)
  | [] => none
  | c :: t =>
    let here :=
      if before.endsInWord then none
      else
        match readThen? (c :: t) with
        | some (word, rest) =>
          if !rest.isBlankText && before.endsOutsideLiteral then
            some (trim (before ++ word), trim rest)
          else none
        | none => none
    match here with
    | some cut => some cut
    | none => splitAtThen? (before ++ [c]) t

/-- The header and the statement of a line that is a one-line if. -/
def splitOneLineIf? (line : Text) : Option (Text × Text) :=
  match line.dropWholeWord? "if".toList with
  | some _ => splitAtThen? [] line
  | none => none

/-! ## Functions -/

/-- The text behind an arrow that the text begins with, without the white space around the
arrow. -/
def readArrow? (t : Text) : Option Text :=
  match t.trimStart with
  | '-' :: '>' :: rest => if isBlankText rest then none else some (trimStart rest)
  | _ => none

/-- The text up to the first closing parenthesis with an arrow behind it, and the text behind that
arrow; `before` is the text read so far. -/
def splitAtArrow? (before : Text) : Text → Option (Text × Text)
  | [] => none
  | c :: t =>
    match if c = ')' then readArrow? t else none with
    | some body => some (before ++ [c], body)
    | none => splitAtArrow? (before ++ [c]) t

/-- The text behind the opening parenthesis of a function declaration, if the text begins with the
word func, white space, a name and that parenthesis. -/
def dropFuncName? (t : Text) : Option Text := do
  let t ← t.dropKeyword? "func".toList
  let t ← t.dropBlanks?
  let (_, t) ← t.takeName?
  t.trimStart.dropChar? '('

/-- The text behind the opening parenthesis of a function declaration, which may begin with the word
volatile and white space. -/
def dropFuncLead? (t : Text) : Option Text :=
  match t.dropKeyword? "volatile".toList with
  | some rest => do (← rest.dropBlanks?).dropFuncName?
  | none => t.dropFuncName?

/-- The declaration and the body of a line that is a one-line function. -/
def splitOneLineFunc? (line : Text) : Option (Text × Text) :=
  match line.dropFuncLead? with
  | some rest => splitAtArrow? (line.take (line.length - rest.length)) rest
  | none => none

end Text

end ScriptScan
