import ScriptScan.Proofs.Catalog.Faults
import ScriptScan.Proofs.Text.Lines

/-!
# The first fault of a file

A file is read in two passes: first all of its lines are put together, then the script is read from
what they make. Each pass breaks off at the first fault that it meets, so what stands behind cannot
change that fault (`SourceMode.run_append_of_error`, `Outline.run_append_of_error`). But a fault of
the second pass is told only if the first pass comes to the end of the file. Text that is put behind
lines with such a fault leaves it as it is, unless the lines of that text cannot be put together
(`Catalog.first_fault_wins`); then the fault that is told stands behind those lines
(`Catalog.first_fault_hidden`).
-/

namespace ScriptScan

/-! ## Each pass -/

theorem SourceMode.run_append_of_error {m : SourceMode} {s : ReaderState} {n : Nat} {ls : List Text}
    {f : Fault} (h : m.run s n ls = .error f) (ls' : List Text) :
    m.run s n (ls ++ ls') = .error f := by
  rw [run_append, h]

theorem Outline.run_append_of_error {ctx : ScanContext} {o : Outline} {ls : List LogicalLine}
    {f : Fault} (h : run ctx o ls = .error f) (ls' : List LogicalLine) :
    run ctx o (ls ++ ls') = .error f := by
  obtain ⟨pre, l, post, o', rfl, hrun, hfails⟩ := run_eq_error_iff.1 h
  refine run_eq_error_iff.2 ⟨pre, l, post ++ ls', o', ?_, hrun, hfails⟩
  rw [List.append_assoc, List.cons_append]

namespace LogicalSource

variable {m : SourceMode} {p : Text}

/-- Lines that cannot be put together still cannot when more is put behind them, unless they end too
early. -/
theorem read_append_of_error {f : Fault} (hp : p.WholeLines) (h : read m p = .error f)
    (hopen : f.cause ≠ .danglingContinuation) (q : Text) : read m (p ++ q) = .error f := by
  have hrun : m.run {} 1 p.lines = .error f := by
    rw [read_eq] at h
    split at h
    · rename_i f' hrun
      cases h
      exact hrun
    · split at h
      · cases h
        exact absurd rfl hopen
      · cases h
  rw [read_eq, Text.lines_append hp, SourceMode.run_append_of_error hrun]

/-- Behind lines that read, more text only adds to what they were read as, or has a fault of its
own. -/
theorem read_append_of_read {source : LogicalSource} (hp : p.WholeLines)
    (h : read m p = .ok source) (q : Text) :
    (∃ rest count, read m (p ++ q) = .ok ⟨source.lines ++ rest, count⟩) ∨
      ∃ f, read m (p ++ q) = .error f ∧
        f.span.Inside m.file (p.lines.length + 1) ((p ++ q).lines.length + 1) := by
  obtain ⟨s, lines, hrun, hnone, rfl⟩ := read_eq_ok_iff.1 h
  have hplaced : s.Placed m.file (1 + p.lines.length) (1 + p.lines.length) :=
    ReaderState.placed_of_none hnone _ _ _
  have hlength : 1 + p.lines.length + q.lines.length = (p ++ q).lines.length + 1 := by
    rw [Text.lines_append hp, List.length_append]
    omega
  rw [read_eq, Text.lines_append hp, SourceMode.run_append, hrun, ← Text.lines_append hp,
    Nat.add_comm _ 1, ← hlength]
  dsimp only
  cases hrest : m.run s (1 + p.lines.length) q.lines with
  | error f => exact .inr ⟨f, rfl, SourceMode.run_fault_inside hplaced (Nat.le_refl _) hrest⟩
  | ok r =>
    obtain ⟨s', rest⟩ := r
    cases hp' : s'.pending? with
    | none =>
      refine .inl ⟨rest, (p ++ q).lines.length, ?_⟩
      simp only [Except.map, hp']
    | some waiting =>
      -- the line that waits has begun behind the first text
      refine .inr ⟨⟨.danglingContinuation, waiting.span⟩, ?_, ?_⟩
      · simp only [Except.map, hp']
      · exact ((SourceMode.run_inside hplaced (Nat.le_refl _) hrest).1 waiting hp').1

end LogicalSource

/-- A script that breaks off in one of its lines breaks off there when more lines follow. -/
theorem Script.ofSource_append_of_error {ctx : ScanContext} {path : Path} {source : LogicalSource}
    {f : Fault} (h : ofSource ctx path source = .error f)
    (hend : ∀ name, f.cause ≠ .unclosedFunc name) (rest : List LogicalLine) (count : Nat) :
    ofSource ctx path ⟨source.lines ++ rest, count⟩ = .error f := by
  have hrun : Outline.run ctx (.empty path) source.lines = .error f := by
    rcases ofSource_eq_error_iff.1 h with hfails | ⟨o, g, -, -, rfl⟩
    · exact Outline.run_eq_error_iff.2 hfails
    · exact absurd rfl (hend g.name)
  rw [ofSource, Outline.run_append_of_error hrun]

/-! ## Scans -/

namespace Catalog

variable {c : Catalog} {setup : Setup} {fs : FileSystem} {path key : Path} {p q : Text} {f : Fault}

theorem read_append_of_error (hp : p.WholeLines) (h : c.read setup key p = .error f)
    (hopen : f.cause ≠ .danglingContinuation) (hend : ∀ name, f.cause ≠ .unclosedFunc name)
    (hlines : LogicalSource.read ⟨key.text, setup.options.strict⟩ p = .error f ∨
      ∃ source, LogicalSource.read ⟨key.text, setup.options.strict⟩ (p ++ q) = .ok source) :
    c.read setup key (p ++ q) = .error f := by
  rcases read_eq_error_iff.1 h with hfirst | ⟨source, hsource, hscript⟩
  · -- the fault is one of the first pass
    exact read_eq_error_iff.2 (.inl (LogicalSource.read_append_of_error hp hfirst hopen q))
  · rcases LogicalSource.read_append_of_read hp hsource q with ⟨rest, count, hall⟩ | ⟨g, hall, -⟩
    · exact read_eq_error_iff.2 (.inr ⟨_, hall, Script.ofSource_append_of_error hscript hend ..⟩)
    · rcases hlines with hfirst | ⟨source', hsource'⟩
      · rw [hsource] at hfirst
        cases hfirst
      · rw [hall] at hsource'
        cases hsource'

/-- The fault of whole lines stays the fault of the file, whatever is put behind them, if it is one
of their first pass or if all lines can be put together. If only the lines behind cannot, the fault
that is told stands there. The two faults that say that the file ends too early are left out. -/
theorem first_fault_wins (hp : p.WholeLines)
    (hscan : (c.scanSource setup fs ⟨path, p⟩).2 = .error f)
    (hopen : f.cause ≠ .danglingContinuation) (hend : ∀ name, f.cause ≠ .unclosedFunc name)
    (q : Text) :
    ((LogicalSource.read ⟨(fs.canonical path).text, setup.options.strict⟩ p = .error f ∨
        ∃ source, LogicalSource.read ⟨(fs.canonical path).text, setup.options.strict⟩ (p ++ q) =
          .ok source) →
      c.scanSource setup fs ⟨path, p ++ q⟩ = (c, .error f)) ∧
    ∀ source g,
      LogicalSource.read ⟨(fs.canonical path).text, setup.options.strict⟩ p = .ok source →
      LogicalSource.read ⟨(fs.canonical path).text, setup.options.strict⟩ (p ++ q) = .error g →
        c.scanSource setup fs ⟨path, p ++ q⟩ = (c, .error g) ∧
          g.span.Inside (fs.canonical path).text (p.lines.length + 1)
            ((p ++ q).lines.length + 1) ∧
          (g.cause = .danglingContinuation ∨
            (setup.options.strict = true ∧ g.cause = .oneLineFunc)) := by
  obtain ⟨hnew, hread⟩ := scanSource_eq_error_iff.1 hscan
  constructor
  · intro hlines
    exact scanSource_of_fault hnew (read_append_of_error hp hread hopen hend hlines)
  · intro source g hsource hg
    refine ⟨scanSource_of_fault hnew (read_eq_error_iff.2 (.inl hg)), ?_,
      LogicalSource.cause_of_read hg⟩
    rcases LogicalSource.read_append_of_read hp hsource q with ⟨rest, count, hall⟩ | ⟨g', hall, hin⟩
    · rw [hall] at hg
      cases hg
    · rw [hall] at hg
      cases hg
      exact hin

/-- A source in which only the end of a function stands. -/
theorem scanSource_strayEnd :
    ((initial []).scanSource { options := { includeDir := ⟨['/']⟩ } } (.empty [])
        ⟨⟨"http://a/a.au3".toList⟩, "endfunc\n".toList⟩).2 =
      .error ⟨.strayEndFunc, .line "http://a/a.au3".toList 1⟩ := by
  have hscan : ∃ f, ((initial []).scanSource { options := { includeDir := ⟨['/']⟩ } } (.empty [])
      ⟨⟨"http://a/a.au3".toList⟩, "endfunc\n".toList⟩).2 = .error f ∧
      f = ⟨.strayEndFunc, .line "http://a/a.au3".toList 1⟩ :=
    exists_fault (by decide +kernel)
  obtain ⟨f, hf, rfl⟩ := hscan
  exact hf

/-- A stray end of a function in front of a function that is not closed, and in front of a line that
waits. -/
theorem first_fault_wins_sample :
    ((initial []).scanSource { options := { includeDir := ⟨['/']⟩ } } (.empty [])
        ⟨⟨"http://a/a.au3".toList⟩, "endfunc\n".toList ++ "func f()\n".toList⟩).2 =
      .error ⟨.strayEndFunc, .line "http://a/a.au3".toList 1⟩ ∧
    ((initial []).scanSource { options := { includeDir := ⟨['/']⟩ } } (.empty [])
        ⟨⟨"http://a/a.au3".toList⟩, "endfunc\n".toList ++ "x _".toList⟩).2 =
      .error ⟨.danglingContinuation, .line "http://a/a.au3".toList 2⟩ := by
  have hkey : (FileSystem.empty []).canonical ⟨"http://a/a.au3".toList⟩ =
      ⟨"http://a/a.au3".toList⟩ := by
    decide +kernel
  have hwhole : Text.WholeLines "endfunc\n".toList := by decide
  have hwins := fun q => first_fault_wins hwhole scanSource_strayEnd (by decide) (by simp) q
  rw [hkey] at hwins
  have hread : LogicalSource.read ⟨"http://a/a.au3".toList, false⟩ "endfunc\n".toList =
      .ok ⟨[⟨"endfunc".toList, .line "http://a/a.au3".toList 1⟩], 1⟩ := by
    decide +kernel
  have hlater : ∃ source, LogicalSource.read ⟨"http://a/a.au3".toList, false⟩
      ("endfunc\n".toList ++ "func f()\n".toList) = .ok source :=
    exists_eq_ok_of_isOk (by decide +kernel)
  have hwaits : LogicalSource.read ⟨"http://a/a.au3".toList, false⟩
      ("endfunc\n".toList ++ "x _".toList) =
        .error ⟨.danglingContinuation, .line "http://a/a.au3".toList 2⟩ := by
    decide +kernel
  constructor
  · rw [(hwins _).1 (.inr hlater)]
  · rw [((hwins _).2 _ _ hread hwaits).1]

/-- A fault at a line of the first text is not told where the text behind it ends in a line that
waits. -/
theorem first_fault_hidden :
    ¬∀ (c : Catalog) (setup : Setup) (fs : FileSystem) (path : Path) (p q : Text) (f : Fault),
      p.WholeLines → (c.scanSource setup fs ⟨path, p⟩).2 = .error f →
      f.span.Inside (fs.canonical path).text 1 (p.lines.length + 1) →
      f.cause ≠ .danglingContinuation → (∀ name, f.cause ≠ .unclosedFunc name) →
      (c.scanSource setup fs ⟨path, p ++ q⟩).2 = .error f := by
  intro hstays
  have hlonger : ∃ f, ((initial []).scanSource { options := { includeDir := ⟨['/']⟩ } } (.empty [])
      ⟨⟨"http://a/a.au3".toList⟩, "endfunc\n".toList ++ "x _".toList⟩).2 = .error f ∧
      f = ⟨.danglingContinuation, .line "http://a/a.au3".toList 2⟩ :=
    exists_fault (by decide +kernel)
  obtain ⟨g, hg, rfl⟩ := hlonger
  have hsame := hstays _ _ _ _ _ "x _".toList _ (by decide) scanSource_strayEnd
    ⟨by decide +kernel, by decide, by decide, by decide⟩ (by decide) (by simp)
  rw [hg] at hsame
  cases hsame

end Catalog

end ScriptScan
