import ScriptScan.Proofs.Catalog.Run
import ScriptScan.Proofs.Outline.Faults
import ScriptScan.Proofs.Source.Faults
import ScriptScan.Proofs.Source.Portions

/-!
# Places of lines and faults

Every logical line has the place of the physical lines that it was made of, and every fault of a
scan has the place of a logical line, with two exceptions: a function that is still open at the end
is a fault behind the last line, and a handler of pragmas may say what it likes.

* `LogicalSource.Placed` says where the lines of a source stand.
* `Catalog.FaultPlaced` says where the fault of a scan stands.
* `Catalog.places_exact` is the conclusion for both.
-/

namespace ScriptScan

/-- Whether the lines of a source stand where their physical lines do. They lie inside the file,
none begins before the ones before it have ended, unless they are made of the same physical lines,
and each place is that of a portion of the file. -/
structure LogicalSource.Placed (m : SourceMode) (content : Text) (source : LogicalSource) :
    Prop where
  counted : source.physicalCount = content.lines.length
  inside : ∀ l ∈ source.lines, l.span.Inside m.file 1 (source.physicalCount + 1)
  ordered : source.lines.Pairwise LogicalLine.Precedes
  portions : ∃ ps depth, Portion.ReadsAll m.strict 0 ps depth ∧
    content.lines = ps.flatMap Portion.physical ∧ source.lines = Portion.logical m.file 1 ps

theorem LogicalSource.placed_of_read {m : SourceMode} {content : Text} {source : LogicalSource}
    (h : read m content = .ok source) : source.Placed m content := by
  obtain ⟨hcount, hinside⟩ := inside_of_read h
  constructor
  case counted => exact hcount
  case inside =>
    rw [hcount]
    exact hinside
  case ordered => exact ordered_of_read h
  case portions =>
    obtain ⟨ps, depth, hps, hlines, rfl⟩ := read_eq_ok_iff_portions.1 h
    exact ⟨ps, depth, hps, hlines, rfl⟩

namespace Catalog

variable {c : Catalog} {setup : Setup} {fs : FileSystem} {source : Source} {key : Path}
  {content : Text} {f : Fault}

/-! ## Scans that fail -/

theorem scanSource_eq_error_iff :
    (c.scanSource setup fs source).2 = .error f ↔
      c.find? (fs.canonical source.path) = none ∧
        c.read setup (fs.canonical source.path) source.content = .error f := by
  cases hfind : c.find? (fs.canonical source.path) with
  | some s => simp [scanSource_of_known hfind]
  | none =>
    cases hread : c.read setup (fs.canonical source.path) source.content with
    | ok s => simp [scanSource_of_read hfind hread]
    | error f' => simp [scanSource_of_fault hfind hread]

/-- A text declares no script because its lines cannot be read, or because of what they say. -/
theorem read_eq_error_iff :
    c.read setup key content = .error f ↔
      LogicalSource.read ⟨key.text, setup.options.strict⟩ content = .error f ∨
        ∃ text, LogicalSource.read ⟨key.text, setup.options.strict⟩ content = .ok text ∧
          Script.ofSource (c.context setup) key text = .error f := by
  unfold Catalog.read
  cases LogicalSource.read ⟨key.text, setup.options.strict⟩ content with
  | error f' => simp
  | ok text => simp

/-! ## Where a fault stands -/

/-- Where the fault of a scan stands. Unless the handler of a pragma has raised it, it is that a
function is not closed, and stands behind the last physical line, or it is another one, and stands
inside the file. -/
def FaultPlaced (c : Catalog) (setup : Setup) (key : Path) (content : Text) (f : Fault) : Prop :=
  (∃ text, LogicalSource.read ⟨key.text, setup.options.strict⟩ content = .ok text ∧
      Outline.Raised (c.context setup) (.empty key) text.lines f) ∨
    ((∃ name, f.cause = .unclosedFunc name) ∧
      f.span = .line key.text (content.lines.length + 1)) ∨
    ((∀ name, f.cause ≠ .unclosedFunc name) ∧
      f.span.Inside key.text 1 (content.lines.length + 1))

theorem faultPlaced_of_read (h : c.read setup key content = .error f) :
    c.FaultPlaced setup key content f := by
  rcases read_eq_error_iff.1 h with hread | ⟨text, hread, hscript⟩
  · -- the lines cannot be read
    refine .inr (.inr ⟨?_, LogicalSource.fault_inside_of_read hread⟩)
    intro name
    rcases LogicalSource.cause_of_read hread with hcause | ⟨-, hcause⟩
    · simp [hcause]
    · simp [hcause]
  · obtain ⟨hcount, hinside⟩ := LogicalSource.inside_of_read hread
    rcases Script.ofSource_eq_error_iff.1 hscript with
      ⟨pre, l, post, o, hlines, hrun, hfails⟩ | ⟨o, g, -, -, rfl⟩
    · have hmem : l ∈ text.lines := by
        rw [hlines]
        simp
      rcases hfails.placed with hraises | ⟨hspan, hcause⟩
      · exact .inl ⟨text, hread, pre, l, post, o, hlines, hrun, hraises⟩
      · refine .inr (.inr ⟨hcause, ?_⟩)
        rw [hspan]
        exact hinside l hmem
    · -- a function is open at the end
      refine .inr (.inl ⟨⟨g.name, rfl⟩, ?_⟩)
      rw [← hcount]

/-- The lines of every source that is read stand where their physical lines do, and every scan that
fails does so at a place of its source. -/
theorem places_exact :
    (∀ m content source, LogicalSource.read m content = .ok source → source.Placed m content) ∧
      ∀ (c : Catalog) setup fs (source : Source) f,
        (c.scanSource setup fs source).2 = .error f →
          c.FaultPlaced setup (fs.canonical source.path) source.content f := by
  constructor
  · intro m content source h
    exact LogicalSource.placed_of_read h
  · intro c setup fs source f h
    exact faultPlaced_of_read (scanSource_eq_error_iff.1 h).2

/-- A source with a continued line, a one-line if and a block comment, and one that ends in a
function. -/
theorem places_exact_sample :
    (∃ source, LogicalSource.read ⟨['a'], false⟩ "if x _\n  then y\n#cs\nz".toList = .ok source ∧
      source.Placed ⟨['a'], false⟩ "if x _\n  then y\n#cs\nz".toList) ∧
    ∃ f, ((initial []).scanSource { options := { includeDir := ⟨['/']⟩ } } (.empty [])
        ⟨⟨"http://a/b.au3".toList⟩, "x\nfunc f()\ny".toList⟩).2 = .error f ∧
      (initial []).FaultPlaced { options := { includeDir := ⟨['/']⟩ } }
        ((FileSystem.empty []).canonical ⟨"http://a/b.au3".toList⟩) "x\nfunc f()\ny".toList f := by
  have hread : ∃ source,
      LogicalSource.read ⟨['a'], false⟩ "if x _\n  then y\n#cs\nz".toList = .ok source :=
    exists_eq_ok_of_isOk (by decide +kernel)
  have hscan : ∃ f, ((initial []).scanSource { options := { includeDir := ⟨['/']⟩ } } (.empty [])
      ⟨⟨"http://a/b.au3".toList⟩, "x\nfunc f()\ny".toList⟩).2 = .error f :=
    exists_eq_error_of_isOk (by decide +kernel)
  obtain ⟨source, hsource⟩ := hread
  obtain ⟨f, hf⟩ := hscan
  constructor
  · exact ⟨source, hsource, places_exact.1 _ _ _ hsource⟩
  · exact ⟨f, hf, places_exact.2 _ _ _ _ _ hf⟩

end Catalog

end ScriptScan
