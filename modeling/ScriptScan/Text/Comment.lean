import ScriptScan.Text.Literal

/-!
# Trailing comments

A semicolon outside string literals begins a comment that runs to the end of the line. The line is
cut by the first of these rules that applies:

1. at the first semicolon with no quote anywhere after it;
2. at the first semicolon, if the text before it holds an even number of quotes of each kind and
   the line holds no interpolated string;
3. at the first semicolon after complete double-quoted runs;
4. at the first semicolon after complete single-quoted runs.

A line to which none applies keeps its text.
-/

namespace ScriptScan

namespace Text

/-- The text before the first semicolon that no quote follows. -/
def beforeBareComment? : Text → Option Text
  | [] => none
  | c :: t =>
    if c = ';' ∧ !t.any isQuote then some []
    else (beforeBareComment? t).map (c :: ·)

/-- Whether an interpolated string may open in the text: a dollar sign directly before a double
quote. -/
def hasInterpolation : Text → Bool
  | '$' :: '"' :: _ => true
  | _ :: t => hasInterpolation t
  | [] => false

end Text

/-- Where a reader of quoted runs stands. -/
inductive QuotedRuns where
  /-- At the very beginning. -/
  | start
  /-- In plain text before the first run. -/
  | lead
  /-- Inside a run. -/
  | quoted
  /-- In plain text after at least one complete run. -/
  | between
deriving DecidableEq, Repr

namespace QuotedRuns

/-- Whether a semicolon met here begins a comment. -/
def mayCut : QuotedRuns → Bool
  | start => true
  | between => true
  | lead => false
  | quoted => false

/-- The text before the semicolon that follows complete runs of one quote. A line that does not
begin with the semicolon needs at least one such run before it, and the comment ends with the
line. -/
def beforeComment? (quote : Char) : QuotedRuns → Text → Option Text
  | _, [] => none
  | quoted, c :: t =>
    (beforeComment? quote (if c = quote then between else quoted) t).map (c :: ·)
  | s, c :: t =>
    if c = quote then (beforeComment? quote quoted t).map (c :: ·)
    else if c = ';' then (if s.mayCut ∧ '\n' ∉ t then some [] else none)
    else (beforeComment? quote (if s = between then between else lead) t).map (c :: ·)

end QuotedRuns

namespace Text

/-- The line without its trailing comment, and without white space at its end. -/
def stripComment (line : Text) : Text :=
  if line.isBlankText then []
  else
    match line.splitFirst? ';' with
    | none => line.trimEnd
    | some (before, _) =>
      match line.beforeBareComment? with
      | some code => code.trimEnd
      | none =>
        if !line.hasInterpolation && before.count '"' % 2 == 0 && before.count '\'' % 2 == 0 then
          before.trim
        else
          match QuotedRuns.start.beforeComment? '"' line with
          | some code => code.trimEnd
          | none =>
            match QuotedRuns.start.beforeComment? '\'' line with
            | some code => code.trimEnd
            | none => line.trimEnd

end Text

end ScriptScan
