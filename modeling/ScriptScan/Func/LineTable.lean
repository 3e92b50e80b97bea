import ScriptScan.Line.Logical

/-!
# Tables of lines

The lines of a function are kept under their spans. Lines that share a span, as those do that a
one-line form is brought into, form one group, in the order in which they came. Read back, the
groups stand in the order of their spans, whatever the order in which the lines came.
-/

namespace ScriptScan

/-- Lines under their spans. The group with the greatest span is the first, and the newest text of a
group is its first, because a line mostly goes behind all others. -/
structure LineTable where
  groups : List (Span × List Text) := []
deriving DecidableEq, Repr

namespace LineTable

/-- Groups with one more line among them. -/
def insert (l : LogicalLine) : List (Span × List Text) → List (Span × List Text)
  | [] => [(l.span, [l.text])]
  | (span, texts) :: rest =>
    match compare l.span span with
    -- a line behind all others; a source that is read from top to bottom has no other
    | .gt => (l.span, [l.text]) :: (span, texts) :: rest
    | .eq => (span, l.text :: texts) :: rest
    | .lt => (span, texts) :: insert l rest

/-- The table with one more line. -/
def add (t : LineTable) (l : LogicalLine) : LineTable :=
  ⟨insert l t.groups⟩

/-- The lines in the order of their spans. -/
def lines (t : LineTable) : List LogicalLine :=
  t.groups.reverse.flatMap fun (span, texts) => texts.reverse.map (⟨·, span⟩)

/-- How many lines there are. -/
def size (t : LineTable) : Nat :=
  t.groups.foldl (fun n g => n + g.2.length) 0

/-- From the least span to the end of the greatest, if there is any line. -/
def span? (t : LineTable) : Option Span :=
  match t.groups.getLast?, t.groups.head? with
  | some (first, _), some (last, _) => some (first.through last)
  | _, _ => none

end LineTable

end ScriptScan
