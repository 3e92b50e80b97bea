import ScriptScan.Line.Logical

/-!
# Reading without places

What a physical line comes to does not depend on where it stands. `Reading` is what it comes to:
nothing, a line that waits to be continued, some texts, or a fault. `step_eq` cuts a step of the
reader into the reading of its line and the span at which the reading is placed. Whatever is to be
said about spans is then a case analysis over four readings, and never opens the readers of markers,
continuations and one-line forms. `run_append` says that reading some lines and then others is
reading both.
-/

namespace ScriptScan

instance decidableEqExcept {ε α : Type} [DecidableEq ε] [DecidableEq α] :
    DecidableEq (Except ε α)
  | .ok a, .ok b => decidable_of_iff (a = b) (by simp)
  | .error e, .error f => decidable_of_iff (e = f) (by simp)
  | .ok _, .error _ => isFalse (by simp)
  | .error _, .ok _ => isFalse (by simp)

/-! ## Readings -/

/-- What a physical line comes to, wherever it stands. -/
inductive Reading where
  /-- It is a marker, or part of a block comment; then the comments have the given depth. -/
  | skips (depth : Nat)
  /-- It is to be continued; the text before the marker is given. -/
  | waits (head : Text)
  /-- It completes the given lines. -/
  | emits (texts : List Text)
  /-- It completes a line that cannot be brought into block form. -/
  | fails (cause : Cause)

/-- What a text comes to that is outside of block comments. -/
def Reading.ofText (strict : Bool) (text : Text) : Reading :=
  match beforeContinuation? text with
  | some head => waits head
  | none =>
    match expand strict (modernize text) with
    | .ok texts => emits texts
    | .error cause => fails cause

/-- Puts a reading at a place; `depth` is the depth of block comments there. -/
def Reading.place (depth : Nat) (span : Span) :
    Reading → Except Fault (ReaderState × List LogicalLine)
  | skips depth' => .ok (⟨depth', none⟩, [])
  | waits head => .ok (⟨depth, some ⟨head, span⟩⟩, [])
  | emits texts => .ok (⟨depth, none⟩, texts.map (⟨·, span⟩))
  | fails cause => .error ⟨cause, span⟩

/-- The marker that a physical line is, if it is read on its own. -/
def Marker.ofPhysical? (physical : Text) : Option Marker :=
  Marker.read? physical.trimStart.stripComment

namespace ReaderState

/-- What a physical line comes to in a state of the reader. -/
def reading (s : ReaderState) (strict : Bool) (physical : Text) : Reading :=
  let line := physical.trimStart.stripComment
  match s.pending? with
  | some p => .ofText strict (p.head ++ ' ' :: line)
  | none =>
    match Marker.ofPhysical? physical with
    | some .commentStart => .skips (s.depth + 1)
    | some .commentEnd => .skips (s.depth - 1)
    | some .region => .skips s.depth
    | none => if 0 < s.depth then .skips s.depth else .ofText strict line

/-- The span of the line that the `n`-th physical line begins or continues. -/
def spanAt (s : ReaderState) (file : Text) (n : Nat) : Span :=
  match s.pending? with
  | some p => p.span.through (.line file n)
  | none => .line file n

theorem spanAt_of_none {s : ReaderState} (h : s.pending? = none) (file : Text) (n : Nat) :
    s.spanAt file n = .line file n := by
  simp [spanAt, h]

theorem spanAt_of_some {s : ReaderState} {p : Pending} (h : s.pending? = some p) (file : Text)
    (n : Nat) : s.spanAt file n = p.span.through (.line file n) := by
  simp [spanAt, h]

end ReaderState

namespace SourceMode

variable {m : SourceMode} {s s' : ReaderState} {n : Nat} {l : Text} {ls : List Text}
  {out : List LogicalLine}

/-! ## Steps -/

theorem accept_eq (m : SourceMode) (depth : Nat) (text : Text) (span : Span) :
    m.accept depth text span = (Reading.ofText m.strict text).place depth span := by
  unfold accept emit Reading.ofText
  cases beforeContinuation? text with
  | some head => rfl
  | none => cases expand m.strict (modernize text) <;> rfl

/-- A step of the reader is the reading of its line, put at its place. -/
theorem step_eq (m : SourceMode) (s : ReaderState) (n : Nat) (l : Text) :
    m.step s n l = (s.reading m.strict l).place s.depth (s.spanAt m.file n) := by
  rcases s with ⟨depth, pending?⟩
  unfold step ReaderState.reading ReaderState.spanAt Marker.ofPhysical?
  cases pending? with
  | some p => exact accept_eq ..
  | none =>
    -- only here is the line looked at on its own
    dsimp only
    cases Marker.read? l.trimStart.stripComment with
    | some marker => cases marker <;> rfl
    | none =>
      by_cases hdepth : 0 < depth
      · simp [hdepth, Reading.place]
      · simp [hdepth, accept_eq]

/-! ## Runs -/

/-- The line behind some lines, counted from the second of them. -/
theorem add_length_cons (n : Nat) (l : Text) (ls : List Text) :
    n + (l :: ls).length = n + 1 + ls.length := by
  rw [List.length_cons]
  omega

@[simp] theorem run_nil (m : SourceMode) (s : ReaderState) (n : Nat) :
    m.run s n [] = .ok (s, []) := rfl

theorem run_cons (m : SourceMode) (s : ReaderState) (n : Nat) (l : Text) (ls : List Text) :
    m.run s n (l :: ls) =
      match (s.reading m.strict l).place s.depth (s.spanAt m.file n) with
      | .error f => .error f
      | .ok (s', out) => (m.run s' (n + 1) ls).map fun (s'', rest) => (s'', out ++ rest) := by
  simp only [run, step_eq]
  cases (s.reading m.strict l).place s.depth (s.spanAt m.file n) with
  | error f => rfl
  | ok r =>
    dsimp only
    cases m.run r.1 (n + 1) ls <;> rfl

/-- Reading some lines and then others. -/
theorem run_append (m : SourceMode) (s : ReaderState) (n : Nat) (ls ls' : List Text) :
    m.run s n (ls ++ ls') =
      match m.run s n ls with
      | .error f => .error f
      | .ok (s', out) =>
        (m.run s' (n + ls.length) ls').map fun (s'', rest) => (s'', out ++ rest) := by
  induction ls generalizing s n with
  | nil =>
    cases h : m.run s n ls' <;> simp [Except.map, h]
  | cons l ls ih =>
    rw [List.cons_append, run_cons, run_cons]
    cases (s.reading m.strict l).place s.depth (s.spanAt m.file n) with
    | error f => rfl
    | ok r =>
      dsimp only
      rw [ih, add_length_cons]
      cases m.run r.1 (n + 1) ls with
      | error f => rfl
      | ok r' =>
        cases h : m.run r'.1 (n + 1 + ls.length) ls' <;> simp [Except.map, h]

end SourceMode

/-! ## Sources -/

/-- How a source is read, by what its run comes to. -/
theorem LogicalSource.read_eq (m : SourceMode) (content : Text) :
    read m content =
      match m.run {} 1 content.lines with
      | .error f => .error f
      | .ok (s, lines) =>
        match s.pending? with
        | some p => .error ⟨.danglingContinuation, p.span⟩
        | none => .ok ⟨lines, content.lines.length⟩ := by
  unfold read
  dsimp only
  cases m.run {} 1 content.lines with
  | error f => rfl
  | ok r =>
    rcases r with ⟨⟨depth, pending?⟩, lines⟩
    cases pending? <;> rfl

theorem LogicalSource.read_eq_ok_iff {m : SourceMode} {content : Text} {source : LogicalSource} :
    read m content = .ok source ↔
      ∃ s lines, m.run {} 1 content.lines = .ok (s, lines) ∧ s.pending? = none ∧
        source = ⟨lines, content.lines.length⟩ := by
  rw [read_eq]
  constructor
  · intro h
    split at h
    · cases h
    · rename_i s lines hrun
      split at h
      · cases h
      · rename_i hnone
        exact ⟨s, lines, hrun, hnone, (Except.ok.inj h).symm⟩
  · rintro ⟨s, lines, hrun, hnone, rfl⟩
    simp [hrun, hnone]

end ScriptScan
