import ScriptScan.Proofs.Source.Moved

/-!
# Clean cuts

A source may be cut in two behind whole lines if the first part reads on its own and leaves no block
comment open. That no line of it waits to be continued need not be asked for: at the end of a source
such a line is a fault. At a clean cut reading is compositional, for every second part and whether
that part is read or refused.
-/

namespace ScriptScan

/-- The depth of block comments behind a text, if the reader gets there. -/
def SourceMode.depthBehind? (m : SourceMode) (t : Text) : Option Nat :=
  match m.run {} 1 t.lines with
  | .ok (s, _) => some s.depth
  | .error _ => none

namespace LogicalSource

variable {m : SourceMode} {t : Text}

/-- The lines of a text leave nothing open if the text reads and no comment is open behind it. -/
theorem reads_iff {out : List LogicalLine} :
    m.Reads t.lines out ↔
      read m t = .ok ⟨out, t.lines.length⟩ ∧ m.depthBehind? t = some 0 := by
  unfold SourceMode.Reads SourceMode.depthBehind?
  constructor
  · intro h
    rw [read_eq, h]
    exact ⟨rfl, rfl⟩
  · rintro ⟨hread, hdepth⟩
    obtain ⟨s, lines, hrun, hnone, hsource⟩ := read_eq_ok_iff.1 hread
    cases hsource
    rw [hrun] at hdepth ⊢
    rcases s with ⟨depth, pending?⟩
    -- nothing waits since the text reads, and no comment is open by assumption
    have hdepth : depth = 0 := Option.some.inj hdepth
    have hnone : pending? = none := hnone
    rw [hdepth, hnone]

/-- Reading is compositional at a clean cut. What stands behind it is read if and only if it reads
on its own: its lines and its fault are the same, only as many lines further down as there are
before the cut. -/
theorem read_clean_cut {source : LogicalSource} (hwhole : t.WholeLines)
    (hread : read m t = .ok source) (hclosed : m.depthBehind? t = some 0) (u : Text) :
    source.physicalCount = t.lines.length ∧
      read m (t ++ u) =
        match read m u with
        | .ok rest =>
          .ok ⟨source.lines ++ rest.lines.map (·.moved t.lines.length),
            source.physicalCount + rest.physicalCount⟩
        | .error f => .error (f.moved t.lines.length) := by
  have hcount : source.physicalCount = t.lines.length := (inside_of_read hread).1
  have hreads : m.Reads t.lines source.lines := by
    refine reads_iff.2 ⟨?_, hclosed⟩
    rw [hread, ← hcount]
  refine ⟨hcount, ?_⟩
  rw [read_append hwhole hreads u, hcount]
  cases read m u <;> rfl

/-- A cut behind a continued line and a comment; what follows is read in one mode and refused in the
other. -/
theorem read_clean_cut_sample :
    read ⟨[], false⟩ ("a _\n b\n#cs\n_\n#ce\n".toList ++ "func f() -> x\ny".toList) =
        .ok ⟨[⟨"a b".toList, ⟨[], 1, 2⟩⟩, ⟨"func f()".toList, ⟨[], 6, 6⟩⟩, ⟨['x'], ⟨[], 6, 6⟩⟩,
          ⟨"endfunc".toList, ⟨[], 6, 6⟩⟩, ⟨['y'], ⟨[], 7, 7⟩⟩], 7⟩ ∧
      read ⟨[], true⟩ ("a _\n b\n#cs\n_\n#ce\n".toList ++ "func f() -> x\ny".toList) =
        .error ⟨.oneLineFunc, ⟨[], 6, 6⟩⟩ := by
  have hwhole : Text.WholeLines "a _\n b\n#cs\n_\n#ce\n".toList := by decide
  have hread : ∀ strict, read ⟨[], strict⟩ "a _\n b\n#cs\n_\n#ce\n".toList =
      .ok ⟨[⟨"a b".toList, ⟨[], 1, 2⟩⟩], 5⟩ := by
    decide +kernel
  have hclosed : ∀ strict, SourceMode.depthBehind? ⟨[], strict⟩
      "a _\n b\n#cs\n_\n#ce\n".toList = some 0 := by
    decide +kernel
  have hlines : (Text.lines "a _\n b\n#cs\n_\n#ce\n".toList).length = 5 := by decide
  have hlenient : read ⟨[], false⟩ "func f() -> x\ny".toList =
      .ok ⟨[⟨"func f()".toList, ⟨[], 1, 1⟩⟩, ⟨['x'], ⟨[], 1, 1⟩⟩, ⟨"endfunc".toList, ⟨[], 1, 1⟩⟩,
        ⟨['y'], ⟨[], 2, 2⟩⟩], 2⟩ := by
    decide +kernel
  have hstrict : read ⟨[], true⟩ "func f() -> x\ny".toList =
      .error ⟨.oneLineFunc, ⟨[], 1, 1⟩⟩ := by
    decide +kernel
  constructor
  · rw [(read_clean_cut hwhole (hread false) (hclosed false) _).2, hlenient, hlines]
    rfl
  · rw [(read_clean_cut hwhole (hread true) (hclosed true) _).2, hstrict, hlines]
    rfl

end LogicalSource

end ScriptScan
