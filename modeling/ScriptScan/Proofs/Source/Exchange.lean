import ScriptScan.Proofs.Line.BlockForm
import ScriptScan.Proofs.Source.Moved

/-!
# Lines that may stand for one another

What some lines say is the texts that they are read as, or the cause for which they are refused,
without any places. Two groups of lines that say the same and leave nothing open may stand for one
another: behind lines that read on their own, and before any lines, the source says the same with
either of them.

* `SourceMode.Says` — what lines say that leave nothing open.
* `LogicalSource.readTexts_congr` — exchanging lines that say the same.
* `SourceMode.says_if`, `SourceMode.says_func` — a statement says the same in a block and on one line
  with what governs it.
-/

namespace ScriptScan

namespace SourceMode

variable {m : SourceMode} {ls ls' : List Text} {out : List LogicalLine} {line stmt : Text}
  {r r' : Except Cause (List Text)}

/-! ## What lines say -/

/-- The texts that the lines of a source are read as, or the cause for which it is refused. -/
def textsOf (m : SourceMode) (ls : List Text) : Except Cause (List Text) :=
  match m.run {} 1 ls with
  | .error f => .error f.cause
  | .ok (s, out) => if s.pending?.isSome then .error .danglingContinuation
    else .ok (out.map (·.text))

/-- Whether some lines leave nothing open and give some texts, or are refused for some cause. -/
def Says (m : SourceMode) (ls : List Text) : Except Cause (List Text) → Prop
  | .ok texts => ∃ out, m.Reads ls out ∧ out.map (·.text) = texts
  | .error cause => ∃ span, m.run {} 1 ls = .error ⟨cause, span⟩

theorem Reads.textsOf_append (h : m.Reads ls out) (ls' : List Text) :
    m.textsOf (ls ++ ls') = (m.textsOf ls').map (out.map (·.text) ++ ·) := by
  unfold textsOf
  rw [h.run_append]
  cases m.run {} 1 ls' with
  | error f => rfl
  | ok read =>
    obtain ⟨⟨depth, pending?⟩, rest⟩ := read
    -- what follows says the same at any place
    have htexts : rest.map ((·.text) ∘ LogicalLine.moved ls.length) = rest.map (·.text) :=
      List.map_congr_left fun _ _ => rfl
    cases pending? <;> simp [movedRun, Except.map, htexts]

theorem Says.textsOf_append (h : m.Says ls r) (ls' : List Text) :
    m.textsOf (ls ++ ls') = r.bind fun texts => (m.textsOf ls').map (texts ++ ·) := by
  cases r with
  | ok texts =>
    obtain ⟨out, hreads, rfl⟩ := h
    exact hreads.textsOf_append ls'
  | error cause =>
    obtain ⟨span, hrun⟩ := h
    have hall : m.run {} 1 (ls ++ ls') = .error ⟨cause, span⟩ := by
      rw [run_append, hrun]
    rw [textsOf, hall]
    rfl

/-- Lines that leave nothing open say one after the other what each of them says. -/
theorem Says.append (h : m.Says ls r) (h' : m.Says ls' r') :
    m.Says (ls ++ ls') (r.bind fun texts => r'.map (texts ++ ·)) := by
  cases r with
  | error cause =>
    obtain ⟨span, hrun⟩ := h
    refine ⟨span, ?_⟩
    rw [run_append, hrun]
  | ok texts =>
    obtain ⟨out, hreads, rfl⟩ := h
    cases r' with
    | error cause =>
      obtain ⟨span, hrun⟩ := h'
      refine ⟨span.moved ls.length, ?_⟩
      rw [hreads.run_append, hrun]
      rfl
    | ok texts' =>
      obtain ⟨out', hreads', rfl⟩ := h'
      refine ⟨out ++ out'.map (·.moved ls.length), ?_, ?_⟩
      · rw [Reads, hreads.run_append, hreads']
        rfl
      · have htexts : out'.map ((·.text) ∘ LogicalLine.moved ls.length) = out'.map (·.text) :=
          List.map_congr_left fun _ _ => rfl
        simp [htexts]

/-! ## What a statement says -/

/-- A physical line that is a statement, but for white space at its ends and a comment, comes to the
block form of the statement. -/
theorem reading_statement {t : Text} (h : t.IsStatement) (hline : line.trimStart.stripComment = t)
    (strict : Bool) :
    ({} : ReaderState).reading strict line = match expand strict t with
      | .ok texts => .emits texts
      | .error cause => .fails cause := by
  have hmarker : Marker.ofPhysical? line = none := by
    rw [Marker.ofPhysical?, hline]
    exact h.marker
  have hreading : ({} : ReaderState).reading strict line = .ofText strict t := by
    simp only [ReaderState.reading, hmarker, hline]
    rfl
  rw [hreading]
  cases hexpand : expand strict t with
  | error cause => simp only [Reading.ofText, h.complete, h.modernize, hexpand]
  | ok texts => simp only [Reading.ofText, h.complete, h.modernize, hexpand]

/-- A statement says its block form. -/
theorem says_statement (h : line.IsStatement) : m.Says [line] (expand m.strict line) := by
  have hreading := reading_statement h h.physical m.strict
  cases hexpand : expand m.strict line with
  | error cause =>
    rw [hexpand] at hreading
    refine ⟨.line m.file 1, ?_⟩
    rw [run_cons, hreading]
    rfl
  | ok texts =>
    rw [hexpand] at hreading
    refine ⟨texts.map (⟨·, .line m.file 1⟩), ?_, ?_⟩
    · rw [Reads, run_cons, hreading]
      simp [Reading.place, Except.map, ReaderState.spanAt]
    · rw [List.map_map]
      exact List.map_id _

/-- A statement that is in block form says itself. -/
theorem says_self (h : line.IsStatement) (hself : expand m.strict line = .ok [line]) :
    m.Says [line] (.ok [line]) := by
  have hsays := says_statement (m := m) h
  rw [hself] at hsays
  exact hsays

/-- A statement between two lines that are in block form. -/
theorem Says.block {opening closing : Text} (hopening : m.Says [opening] (.ok [opening]))
    (hstmt : stmt.IsStatement) (hclosing : m.Says [closing] (.ok [closing])) :
    m.Says [opening, stmt, closing]
      ((expand m.strict stmt).map fun inner => opening :: inner ++ [closing]) := by
  have hall := hopening.append ((says_statement (m := m) hstmt).append hclosing)
  cases hexpand : expand m.strict stmt with
  | error cause =>
    rw [hexpand] at hall
    exact hall
  | ok inner =>
    rw [hexpand] at hall
    exact hall

theorem says_endif : m.Says ["endif".toList] (.ok ["endif".toList]) := by
  have h : Text.IsStatement "endif".toList :=
    ⟨by decide, by decide, by decide, by decide, by decide⟩
  exact says_self h (h.expand_eq (by decide) (by decide) m.strict)

theorem says_endfunc : m.Says ["endfunc".toList] (.ok ["endfunc".toList]) := by
  have h : Text.IsStatement "endfunc".toList :=
    ⟨by decide, by decide, by decide, by decide, by decide⟩
  exact says_self h (h.expand_eq (by decide) (by decide) m.strict)

/-! ## One-line forms and blocks -/

/-- An if says the same whether its statement is on the same line or in a block. -/
theorem says_if {head : IfHead} (h : head.WellFormed) (hstmt : stmt.IsStatement) :
    ∃ r, m.Says [head.oneLine stmt] r ∧ m.Says [head.header, stmt, "endif".toList] r := by
  have hheader := says_self (m := m) h.header_isStatement (h.expand_header m.strict)
  refine ⟨_, says_statement (h.oneLine_isStatement hstmt), ?_⟩
  rw [h.expand_oneLine hstmt]
  exact hheader.block hstmt says_endif

/-- The declaration of a function says itself, in both modes. -/
theorem says_funcLine (h : line.IsFuncLine) : m.Says [line] (.ok [line]) :=
  says_self h.isStatement (h.expand_self m.strict)

/-- A function says the same whether its body is on the same line or in a block. -/
theorem says_func (h : line.IsFuncLine) (hspaced : line.IsSpaced) (hstmt : stmt.IsStatement)
    (hmode : m.strict = false) :
    ∃ r, m.Says [line.withBody stmt] r ∧ m.Says [line, stmt, "endfunc".toList] r := by
  refine ⟨_, says_statement (h.withBody_isStatement hstmt), ?_⟩
  rw [hmode, h.expand_withBody hspaced hstmt, ← hmode]
  exact (says_funcLine h).block hstmt says_endfunc

end SourceMode

/-! ## Sources -/

namespace LogicalSource

variable {m : SourceMode} {t u : Text} {before after ls ls' : List Text} {out : List LogicalLine}
  {r : Except Cause (List Text)}

/-- The texts that a source is read as, or the cause for which it is refused. -/
def readTexts (m : SourceMode) (content : Text) : Except Cause (List Text) :=
  match read m content with
  | .error f => .error f.cause
  | .ok source => .ok (source.lines.map (·.text))

theorem readTexts_eq (m : SourceMode) (content : Text) :
    readTexts m content = m.textsOf content.lines := by
  unfold readTexts SourceMode.textsOf
  rw [read_eq]
  cases m.run {} 1 content.lines with
  | error f => rfl
  | ok read =>
    obtain ⟨⟨depth, pending?⟩, out⟩ := read
    cases pending? <;> rfl

/-- Lines that say the same may stand for one another. -/
theorem readTexts_congr (hbefore : m.Reads before out) (h : m.Says ls r) (h' : m.Says ls' r)
    (ht : t.lines = before ++ (ls ++ after)) (hu : u.lines = before ++ (ls' ++ after)) :
    readTexts m t = readTexts m u := by
  rw [readTexts_eq, readTexts_eq, ht, hu, hbefore.textsOf_append, hbefore.textsOf_append,
    h.textsOf_append, h'.textsOf_append]

end LogicalSource

end ScriptScan
