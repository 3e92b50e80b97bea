import ScriptScan.Proofs.Source.Spans
import ScriptScan.Proofs.Text.Lines

/-!
# Reading behind other lines

The reader that has nothing open reads on as if the source began there, only that all spans lie
further down. So a source that begins with whole lines that read on their own is read as the outcome
of those, and then the outcome of what follows, moved down.

* `run_moved` — a run from a later line.
* `LogicalSource.read_append` — a source that begins with whole lines.
* `LogicalSource.movedBehind_behind` — moving only what stands behind those lines.
-/

namespace ScriptScan

/-! ## Moving -/

/-- The span that lies some lines further down. -/
def Span.moved (k : Nat) (s : Span) : Span :=
  { s with first := s.first + k, last := s.last + k }

def LogicalLine.moved (k : Nat) (l : LogicalLine) : LogicalLine :=
  { l with span := l.span.moved k }

def Fault.moved (k : Nat) (f : Fault) : Fault :=
  { f with span := f.span.moved k }

def Pending.moved (k : Nat) (p : Pending) : Pending :=
  { p with span := p.span.moved k }

def ReaderState.moved (k : Nat) (s : ReaderState) : ReaderState :=
  { s with pending? := s.pending?.map (·.moved k) }

theorem Span.moved_moved (j k : Nat) (s : Span) : (s.moved j).moved k = s.moved (j + k) := by
  simp [moved, Nat.add_assoc]

/-- What a run comes to, some lines further down. -/
def SourceMode.movedRun (k : Nat) (r : Except Fault (ReaderState × List LogicalLine)) :
    Except Fault (ReaderState × List LogicalLine) :=
  match r with
  | .error f => .error (f.moved k)
  | .ok (s, out) => .ok (s.moved k, out.map (·.moved k))

/-! ## Runs further down -/

@[simp] theorem ReaderState.moved_depth (k : Nat) (s : ReaderState) :
    (s.moved k).depth = s.depth := rfl

@[simp] theorem ReaderState.moved_pending? (k : Nat) (s : ReaderState) :
    (s.moved k).pending? = s.pending?.map (·.moved k) := rfl

@[simp] theorem ReaderState.reading_moved (k : Nat) (s : ReaderState) (strict : Bool) (l : Text) :
    (s.moved k).reading strict l = s.reading strict l := by
  rcases s with ⟨depth, pending?⟩
  cases pending? <;> rfl

theorem ReaderState.spanAt_moved (k : Nat) (s : ReaderState) (file : Text) (n : Nat) :
    (s.moved k).spanAt file (n + k) = (s.spanAt file n).moved k := by
  cases hp : s.pending? with
  | none =>
    rw [spanAt_of_none hp, spanAt_of_none (by simp [hp])]
    rfl
  | some p =>
    have hp' : (s.moved k).pending? = some (p.moved k) := by simp [hp]
    rw [spanAt_of_some hp, spanAt_of_some hp']
    simp [Span.through, Span.lines, Span.line, Span.moved, Pending.moved, Nat.add_max_add_right]

theorem Reading.place_moved (k : Nat) (r : Reading) (depth : Nat) (span : Span) :
    r.place depth (span.moved k) = SourceMode.movedRun k (r.place depth span) := by
  cases r with
  | skips depth' => rfl
  | waits head => rfl
  | emits texts => simp [place, SourceMode.movedRun, LogicalLine.moved, ReaderState.moved]
  | fails cause => rfl

namespace SourceMode

variable {m : SourceMode}

theorem run_moved (m : SourceMode) (s : ReaderState) (n : Nat) (ls : List Text) (k : Nat) :
    m.run (s.moved k) (n + k) ls = movedRun k (m.run s n ls) := by
  induction ls generalizing s n with
  | nil => rfl
  | cons l ls ih =>
    rw [run_cons, run_cons, ReaderState.reading_moved, ReaderState.spanAt_moved,
      ReaderState.moved_depth, Reading.place_moved]
    cases (s.reading m.strict l).place s.depth (s.spanAt m.file n) with
    | error f => rfl
    | ok r =>
      rcases r with ⟨s', now⟩
      have hline : n + k + 1 = n + 1 + k := by omega
      simp only [movedRun]
      rw [hline, ih]
      cases m.run s' (n + 1) ls <;> simp [movedRun, Except.map]

/-- Whether some lines read on their own, and leave nothing open: no block comment, and no line that
is to be continued. -/
def Reads (m : SourceMode) (ls : List Text) (out : List LogicalLine) : Prop :=
  m.run {} 1 ls = .ok ({}, out)

instance (m : SourceMode) (ls : List Text) (out : List LogicalLine) : Decidable (m.Reads ls out) :=
  inferInstanceAs (Decidable (_ = _))

/-- What is read behind lines that leave nothing open. -/
theorem Reads.run_append {ls : List Text} {out : List LogicalLine} (h : m.Reads ls out)
    (ls' : List Text) :
    m.run {} 1 (ls ++ ls') =
      (movedRun ls.length (m.run {} 1 ls')).map fun (s, rest) => (s, out ++ rest) := by
  have hstart : ({} : ReaderState) = ReaderState.moved ls.length {} := rfl
  rw [SourceMode.run_append, h]
  dsimp only
  rw [← run_moved, ← hstart]

end SourceMode

namespace LogicalSource

/-- What a source comes to behind some lines that have given `out`. -/
def behind (out : List LogicalLine) (k : Nat) (r : Except Fault LogicalSource) :
    Except Fault LogicalSource :=
  match r with
  | .error f => .error (f.moved k)
  | .ok source => .ok ⟨out ++ source.lines.map (·.moved k), k + source.physicalCount⟩

/-- A source that begins with whole lines which leave nothing open. -/
theorem read_append {m : SourceMode} {t : Text} {out : List LogicalLine} (hwhole : t.WholeLines)
    (h : m.Reads t.lines out) (u : Text) :
    read m (t ++ u) = behind out t.lines.length (read m u) := by
  rw [read_eq, read_eq, Text.lines_append hwhole, h.run_append]
  cases m.run {} 1 u.lines with
  | error f => rfl
  | ok r =>
    rcases r with ⟨s, rest⟩
    cases hp : s.pending? <;>
      simp [SourceMode.movedRun, Except.map, behind, hp, Pending.moved, Fault.moved]

/-- What a source comes to, with everything that begins behind the line `p` moved down. -/
def movedBehind (p k : Nat) (r : Except Fault LogicalSource) : Except Fault LogicalSource :=
  match r with
  | .error f => .error (if p < f.span.first then f.moved k else f)
  | .ok source =>
    .ok ⟨source.lines.map fun l => if p < l.span.first then l.moved k else l,
      source.physicalCount + k⟩

/-- A source that stands behind `p` lines moves down as a whole, and those lines do not. -/
theorem movedBehind_behind {m : SourceMode} {out : List LogicalLine} {p : Nat}
    (hout : ∀ l ∈ out, l.span.first ≤ p) (u : Text) (k : Nat) :
    movedBehind p k (behind out p (read m u)) = behind out (p + k) (read m u) := by
  cases h : read m u with
  | error f =>
    have hin := fault_inside_of_read h
    have hmoved : p < (f.moved p).span.first := by
      have hfirst := hin.le_first
      simp only [Fault.moved, Span.moved]
      omega
    simp only [behind, movedBehind, if_pos hmoved]
    simp [Fault.moved, Span.moved_moved]
  | ok source =>
    rcases inside_of_read h with ⟨-, hin⟩
    have hkept : ∀ l ∈ out, (if p < l.span.first then l.moved k else l) = l := by
      intro l hl
      rw [if_neg (Nat.not_lt.2 (hout l hl))]
    have hmoved : ∀ l ∈ source.lines,
        (if p < (l.moved p).span.first then (l.moved p).moved k else l.moved p) =
          l.moved (p + k) := by
      intro l hl
      have hfirst := (hin l hl).le_first
      rw [if_pos]
      · simp [LogicalLine.moved, Span.moved_moved]
      · simp only [LogicalLine.moved, Span.moved]
        omega
    have hcount : p + source.physicalCount + k = p + k + source.physicalCount := by omega
    simp only [behind, movedBehind, List.map_append, List.map_map]
    rw [List.map_congr_left hkept, List.map_id']
    rw [List.map_congr_left (g := fun l => l.moved (p + k)) hmoved, hcount]

end LogicalSource

end ScriptScan
