import ScriptScan.Line.Expand
import ScriptScan.Text.Comment

/-!
# Logical lines

The source of a script is read line by line. Comments, block comments and region markers produce
nothing; a line that ends in a continuation marker is joined with the next one; the two legacy
directives are rewritten; and every line is brought into block form. What remains are the logical
lines, each with the physical lines that it was made of.

The reader is a state machine over physical lines. Its state is the depth of block comments and the
line that is still to be continued.
-/

namespace ScriptScan

/-- A line of the script as the rules see it, and the physical lines that it came from. -/
structure LogicalLine where
  text : Text
  span : Span
deriving DecidableEq, Repr

/-! ## Markers -/

/-- A line that stands for itself and is never part of the script. -/
inductive Marker where
  | commentStart
  | commentEnd
  | region
deriving DecidableEq, Repr

/-- The marker that a line is. -/
def Marker.read? (line : Text) : Option Marker :=
  match line with
  | '#' :: rest =>
    if (Text.dropWholeWord? rest "comments-start".toList).isSome ||
        (Text.dropWholeWord? rest "cs".toList).isSome then
      some .commentStart
    else if (Text.dropWholeWord? rest "comments-end".toList).isSome ||
        (Text.dropWholeWord? rest "ce".toList).isSome then
      some .commentEnd
    else if (Text.dropWholeWord? rest "region".toList).isSome ||
        (Text.dropWholeWord? rest "endregion".toList).isSome ||
        (Text.dropWholeWord? rest "end-region".toList).isSome then
      some .region
    else none
  | _ => none

/-! ## Continuation -/

/-- The text before a continuation marker: an underscore at the end of the line, with white space or
nothing before it. -/
def beforeContinuation? (line : Text) : Option Text :=
  match line.reverse with
  | '_' :: [] => some []
  | '_' :: c :: before => if isBlank c then some before.reverse else none
  | _ => none

/-! ## Legacy directives -/

/-- A legacy directive in its general form; any other line unchanged. -/
def modernize (line : Text) : Text :=
  match line with
  | '#' :: rest =>
    if (Text.dropWholeWord? rest "requireadmin".toList).isSome then
      "#pragma compile(ExecLevel, requireAdministrator)".toList
    else if (Text.dropWholeWord? rest "notrayicon".toList).isSome then
      "Opt(\"TrayIconHide\", 1)".toList
    else line
  | _ => line

/-! ## The reader -/

/-- A line that is still to be continued: its text before the marker, and where it stands. -/
structure Pending where
  head : Text
  span : Span
deriving DecidableEq, Repr

/-- The state of the reader between two physical lines. -/
structure ReaderState where
  depth : Nat := 0
  pending? : Option Pending := none
deriving DecidableEq, Repr

/-- What the reader needs to know about the source: its file, and whether the language is strict. -/
structure SourceMode where
  file : Text
  strict : Bool

namespace SourceMode

/-- The logical lines of a complete line. -/
def emit (m : SourceMode) (text : Text) (span : Span) : Except Fault (List LogicalLine) :=
  match expand m.strict (modernize text) with
  | .ok texts => .ok (texts.map (⟨·, span⟩))
  | .error cause => .error ⟨cause, span⟩

/-- Takes a line that may have to be continued: either it waits, or it is complete. -/
def accept (m : SourceMode) (depth : Nat) (text : Text) (span : Span) :
    Except Fault (ReaderState × List LogicalLine) :=
  match beforeContinuation? text with
  | some head => .ok (⟨depth, some ⟨head, span⟩⟩, [])
  | none =>
    match m.emit text span with
    | .ok out => .ok (⟨depth, none⟩, out)
    | .error f => .error f

/-- Reads one physical line, the `n`-th of the source. -/
def step (m : SourceMode) (s : ReaderState) (n : Nat) (physical : Text) :
    Except Fault (ReaderState × List LogicalLine) :=
  let line := physical.trimStart.stripComment
  match s.pending? with
  | some p => m.accept s.depth (p.head ++ ' ' :: line) (p.span.through (.line m.file n))
  | none =>
    match Marker.read? line with
    | some .commentStart => .ok ({ s with depth := s.depth + 1 }, [])
    | some .commentEnd => .ok ({ s with depth := s.depth - 1 }, [])
    | some .region => .ok (s, [])
    | none => if 0 < s.depth then .ok (s, []) else m.accept s.depth line (.line m.file n)

/-- Reads physical lines, the first of them the `n`-th of the source. -/
def run (m : SourceMode) (s : ReaderState) (n : Nat) :
    List Text → Except Fault (ReaderState × List LogicalLine)
  | [] => .ok (s, [])
  | l :: ls =>
    match m.step s n l with
    | .error f => .error f
    | .ok (s', out) =>
      match m.run s' (n + 1) ls with
      | .error f => .error f
      | .ok (s'', rest) => .ok (s'', out ++ rest)

/-- Ends the source. A line that is still to be continued is a fault. -/
def finish (s : ReaderState) : Except Fault Unit :=
  match s.pending? with
  | some p => .error ⟨.danglingContinuation, p.span⟩
  | none => .ok ()

end SourceMode

/-- The logical lines of a source, and the number of its physical lines. -/
structure LogicalSource where
  lines : List LogicalLine
  physicalCount : Nat
deriving DecidableEq, Repr

/-- Reads a whole source. -/
def LogicalSource.read (m : SourceMode) (content : Text) : Except Fault LogicalSource :=
  let physical := content.lines
  match m.run {} 1 physical with
  | .error f => .error f
  | .ok (s, lines) =>
    match SourceMode.finish s with
    | .error f => .error f
    | .ok () => .ok ⟨lines, physical.length⟩

end ScriptScan
