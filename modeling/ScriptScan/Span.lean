import ScriptScan.Text.Basic

/-!
# Spans

Where something stands in the source: a file and the lines from a first to a last one, counted from
one. A span may be written with its last line before its first; the constructors never make one.
Spans are ordered by file, then by first line, then by last line, which is source order within one
file.
-/

namespace ScriptScan

/-- A file and a range of lines of it. -/
structure Span where
  file : Text
  first : Nat
  last : Nat
deriving DecidableEq, Repr, Inhabited

namespace Span

/-- The name of the file of a span that is nowhere. -/
def unknownFile : Text := "<unknown>".toList

/-- One line of a file. -/
def line (file : Text) (n : Nat) : Span :=
  ⟨file, n, n⟩

/-- The lines from `first` to `last`; never ends before it starts. -/
def lines (file : Text) (first last : Nat) : Span :=
  ⟨file, first, max first last⟩

/-- The span of what stands in no file. -/
def unknown : Span :=
  line unknownFile 0

/-- Whether the span stands in no file. -/
def isUnknown (s : Span) : Bool :=
  s.file == unknownFile

/-- Whether the span covers one line. -/
def isSingleLine (s : Span) : Bool :=
  s.first == s.last

/-- The span from the start of `s` to the end of `t`. -/
def through (s t : Span) : Span :=
  lines s.file s.first t.last

/-- The order by file, first line and last line. -/
def compare (s t : Span) : Ordering :=
  (Ord.compare s.file t.file).then ((Ord.compare s.first t.first).then (Ord.compare s.last t.last))

instance : Ord Span := ⟨compare⟩

/-- The written form: the file, and the line or the range of lines. -/
def display (s : Span) : Text :=
  if s.isSingleLine then s.file ++ ':' :: Text.ofNat s.first
  else s.file ++ ':' :: Text.ofNat s.first ++ '-' :: Text.ofNat s.last

end Span

end ScriptScan
