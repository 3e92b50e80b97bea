import ScriptScan.Text.Basic

/-!
# String literals

A string literal opens on a single or a double quote and closes on the same quote. A doubled quote
inside a literal stands for one quote: it closes the literal and opens it again at once, so reading
it as two quotes leaves the reader in the same state.
-/

namespace ScriptScan

/-- Whether the character opens a string literal. -/
def isQuote (c : Char) : Bool :=
  c == '"' || c == '\''

/-- Where a reader stands with respect to string literals. -/
inductive Literal where
  /-- Outside every literal. -/
  | outside
  /-- Inside a literal that was opened by this quote. -/
  | inside (quote : Char)
deriving DecidableEq, Repr

namespace Literal

/-- The state after one more character. -/
def step : Literal → Char → Literal
  | outside, c => if isQuote c then inside c else outside
  | inside q, c => if c = q then outside else inside q

/-- The state after a text. -/
def run (s : Literal) (t : Text) : Literal :=
  t.foldl step s

@[simp] theorem run_nil (s : Literal) : s.run [] = s := rfl

@[simp] theorem run_cons (s : Literal) (c : Char) (t : Text) :
    s.run (c :: t) = (s.step c).run t := rfl

/-- Reading two texts one after the other is reading their concatenation. -/
theorem run_append (s : Literal) (t u : Text) : s.run (t ++ u) = (s.run t).run u := by
  simp [run, List.foldl_append]

/-- The text before and after the first occurrence of a character outside literals. -/
def splitOutside? (sep : Char) : Literal → Text → Option (Text × Text)
  | _, [] => none
  | s, c :: t =>
    if s = outside ∧ c = sep then some ([], t)
    else (splitOutside? sep (s.step c) t).map fun (before, after) => (c :: before, after)

/-- A doubled quote inside a literal is an escaped quote. -/
theorem run_doubled (q : Char) (h : isQuote q = true) :
    (inside q).run [q, q] = inside q := by
  simp [step, h]

end Literal

namespace Text

/-- Whether the end of the text lies outside every string literal. -/
def endsOutsideLiteral (t : Text) : Bool :=
  Literal.outside.run t == .outside

end Text

end ScriptScan
