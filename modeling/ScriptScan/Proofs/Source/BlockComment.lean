import ScriptScan.Proofs.Source.Moved

/-!
# Block comments leave nothing

Between a marker that begins a block comment and the marker that ends it nothing is read but
markers, and these only count. So a block comment whose inner markers are balanced gives no line and
no fault, whatever else is in it, and what follows it is read as if it were not there.

* `run_inComment` — the depth inside a comment follows the markers, and nothing is given.
* `Reads.comment` — lines with a block comment behind them give what the lines give.
* `LogicalSource.read_comment_between` — a block comment between two parts of a source only moves
  the second part down.
-/

namespace ScriptScan

/-! ## Counting markers -/

namespace Marker

/-- How many of some physical lines begin a block comment. -/
def starts (ls : List Text) : Nat :=
  ls.countP (ofPhysical? · = some .commentStart)

/-- How many of some physical lines end a block comment. -/
def ends (ls : List Text) : Nat :=
  ls.countP (ofPhysical? · = some .commentEnd)

/-- Whether the markers of some physical lines are balanced: never have more comments been ended
than begun, and in the end as many. -/
structure Balanced (ls : List Text) : Prop where
  ends_le : ∀ pre, pre <+: ls → ends pre ≤ starts pre
  starts_eq : starts ls = ends ls

instance (ls : List Text) : Decidable (Balanced ls) :=
  decidable_of_iff
    ((∀ k, k < ls.length + 1 → ends (ls.take k) ≤ starts (ls.take k)) ∧ starts ls = ends ls) <| by
      constructor
      · rintro ⟨hle, heq⟩
        refine ⟨?_, heq⟩
        intro pre hpre
        have hlen := hpre.length_le
        rw [List.prefix_iff_eq_take.1 hpre]
        exact hle pre.length (by omega)
      · intro h
        exact ⟨fun k _ => h.ends_le _ (List.take_prefix ..), h.starts_eq⟩

/-- Whether a text is one whole line, which is the given marker. -/
def IsLine (marker : Marker) (t : Text) : Prop :=
  t.WholeLines ∧ ∃ l, t.lines = [l] ∧ ofPhysical? l = some marker

end Marker

namespace SourceMode

variable {m : SourceMode} {n d : Nat} {ls : List Text} {out : List LogicalLine}

/-! ## Inside a comment -/

/-- Inside a block comment a line is skipped, whatever it is. -/
theorem reading_inComment (strict : Bool) (l : Text) :
    (⟨d + 1, none⟩ : ReaderState).reading strict l =
      .skips (d + 1 + Marker.starts [l] - Marker.ends [l]) := by
  unfold ReaderState.reading Marker.starts Marker.ends
  cases h : Marker.ofPhysical? l with
  | none => simp [h]
  | some marker => cases marker <;> simp [h]

/-- As long as the comment is not left, the depth follows the markers and nothing is given. The
induction is on the lines; what is asked of all prefixes gives the head its bound, and the tail the
same with the depth behind the head. -/
theorem run_inComment (h : ∀ pre, pre <+: ls → Marker.ends pre ≤ Marker.starts pre + d) :
    m.run ⟨d + 1, none⟩ n ls =
      .ok (⟨d + 1 + Marker.starts ls - Marker.ends ls, none⟩, []) := by
  induction ls generalizing d n with
  | nil => rfl
  | cons l ls ih =>
    have hstarts : ∀ pre, Marker.starts (l :: pre) = Marker.starts [l] + Marker.starts pre := by
      intro pre
      show Marker.starts ([l] ++ pre) = _
      exact List.countP_append
    have hends : ∀ pre, Marker.ends (l :: pre) = Marker.ends [l] + Marker.ends pre := by
      intro pre
      show Marker.ends ([l] ++ pre) = _
      exact List.countP_append
    have hhead : Marker.ends [l] ≤ Marker.starts [l] + d := h [l] ⟨ls, rfl⟩
    have hdepth : d + 1 + Marker.starts [l] - Marker.ends [l] =
        d + Marker.starts [l] - Marker.ends [l] + 1 := by
      omega
    have htail : ∀ pre, pre <+: ls →
        Marker.ends pre ≤ Marker.starts pre + (d + Marker.starts [l] - Marker.ends [l]) := by
      intro pre hpre
      have hcons := h (l :: pre) ((List.prefix_cons_inj l).2 hpre)
      rw [hstarts pre, hends pre] at hcons
      omega
    have hall : Marker.ends ls ≤
        Marker.starts ls + (d + Marker.starts [l] - Marker.ends [l]) :=
      htail ls (List.prefix_refl ls)
    rw [run_cons, reading_inComment]
    simp only [Reading.place]
    rw [hdepth, ih htail, hstarts ls, hends ls]
    simp only [Except.map, List.append_nil]
    congr 3
    omega

/-! ## A whole comment -/

/-- Lines that leave nothing open, and a block comment behind them, give what the lines give. -/
theorem Reads.comment {start close : Text} {inner : List Text} (h : m.Reads ls out)
    (hstart : Marker.ofPhysical? start = some .commentStart) (hinner : Marker.Balanced inner)
    (hclose : Marker.ofPhysical? close = some .commentEnd) :
    m.Reads (ls ++ start :: inner ++ [close]) out := by
  have hbegin : ∀ n, m.run {} n [start] = .ok (⟨1, none⟩, []) := by
    intro n
    rw [run_cons]
    simp [ReaderState.reading, hstart, Reading.place, Except.map]
  have hinside : ∀ n, m.run ⟨0 + 1, none⟩ n inner = .ok (⟨1, none⟩, []) := by
    intro n
    rw [run_inComment hinner.ends_le, hinner.starts_eq]
    simp
  have hend : ∀ n, m.run ⟨1, none⟩ n [close] = .ok ({}, []) := by
    intro n
    rw [run_cons]
    simp [ReaderState.reading, hclose, Reading.place, Except.map]
  have hsplit : ls ++ start :: inner ++ [close] = ls ++ ([start] ++ (inner ++ [close])) := by simp
  unfold Reads
  rw [hsplit, SourceMode.run_append, h]
  dsimp only
  rw [SourceMode.run_append, hbegin]
  dsimp only
  rw [SourceMode.run_append, hinside]
  dsimp only
  rw [hend]
  simp [Except.map]

end SourceMode

namespace LogicalSource

/-- A block comment between two parts of a source leaves nothing: the outcome is that of the two
parts alone, only that everything in the second one lies further down. -/
theorem read_comment_between {m : SourceMode} {before start inner close : Text}
    {out : List LogicalLine} (hbefore : before.WholeLines) (hreads : m.Reads before.lines out)
    (hstart : Marker.IsLine .commentStart start) (hinner : inner.WholeLines)
    (hbalanced : Marker.Balanced inner.lines) (hclose : Marker.IsLine .commentEnd close)
    (after : Text) :
    read m (before ++ start ++ inner ++ close ++ after) =
      movedBehind before.lines.length (inner.lines.length + 2) (read m (before ++ after)) := by
  rcases hstart with ⟨hstart, s, hs, hsmarker⟩
  rcases hclose with ⟨hclose, e, he, hemarker⟩
  have hwhole : (before ++ start ++ inner ++ close).WholeLines :=
    ((hbefore.append hstart).append hinner).append hclose
  have hlines : (before ++ start ++ inner ++ close).lines =
      before.lines ++ s :: inner.lines ++ [e] := by
    rw [Text.lines_append ((hbefore.append hstart).append hinner),
      Text.lines_append (hbefore.append hstart), Text.lines_append hbefore, hs, he]
    simp
  have hall : m.Reads (before ++ start ++ inner ++ close).lines out := by
    rw [hlines]
    exact hreads.comment hsmarker hbalanced hemarker
  have hlength : (before ++ start ++ inner ++ close).lines.length =
      before.lines.length + (inner.lines.length + 2) := by
    rw [hlines]
    simp
  have hout : ∀ l ∈ out, l.span.first ≤ before.lines.length := by
    intro l hl
    have hplaced := ReaderState.placed_start m.file
    have hin := (SourceMode.run_inside hplaced (Nat.le_refl 1) hreads).2 l hl
    have hfirst := hin.first_le_last
    have hlast := hin.last_lt
    omega
  rw [read_append hwhole hall, read_append hbefore hreads, movedBehind_behind hout, hlength]

/-- A comment with a comment in it, and with lines that would be faults outside. -/
theorem read_comment_between_sample :
    read ⟨[], true⟩ ("x\n".toList ++ "#cs\n".toList ++ "func f() -> y\n#cs\n#ce\n".toList ++
        "#ce ; end\n".toList ++ "z _".toList) =
      movedBehind 1 5 (read ⟨[], true⟩ ("x\n".toList ++ "z _".toList)) := by
  have hreads : SourceMode.Reads ⟨[], true⟩ (Text.lines "x\n".toList) [⟨['x'], .line [] 1⟩] := by
    decide +kernel
  have hstart : Marker.IsLine .commentStart "#cs\n".toList :=
    ⟨by decide, "#cs".toList, by decide, by decide⟩
  have hclose : Marker.IsLine .commentEnd "#ce ; end\n".toList :=
    ⟨by decide, "#ce ; end".toList, by decide, by decide⟩
  exact read_comment_between (by decide) hreads hstart (by decide) (by decide) hclose "z _".toList

end LogicalSource

end ScriptScan
