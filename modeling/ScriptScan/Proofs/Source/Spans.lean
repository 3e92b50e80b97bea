import ScriptScan.Proofs.Source.Reading

/-!
# The spans of logical lines

A logical line has the span of the physical lines that it was made of, and the reader never goes
back. So the spans that it gives lie inside the source, and two of them are the same or follow one
another.

* `ReaderState.Placed` is the invariant: a line that waits ends directly before the next one.
* `run_inside`, `run_fault_inside` — where the spans of a run and of its fault lie.
* `run_ordered` — the spans of a run never overlap and never go backwards.

The same is then said of whole sources.
-/

namespace ScriptScan

/-- Whether a span lies in a file, from the line `lo` to before the line `hi`. -/
structure Span.Inside (file : Text) (lo hi : Nat) (s : Span) : Prop where
  file_eq : s.file = file
  le_first : lo ≤ s.first
  first_le_last : s.first ≤ s.last
  last_lt : s.last < hi

theorem Span.Inside.mono {file : Text} {lo lo' hi hi' : Nat} {s : Span}
    (h : s.Inside file lo hi) (hlo : lo' ≤ lo) (hhi : hi ≤ hi') : s.Inside file lo' hi' :=
  ⟨h.file_eq, Nat.le_trans hlo h.le_first, h.first_le_last, Nat.lt_of_lt_of_le h.last_lt hhi⟩

/-- Whether two lines were made of the same physical lines, or the first of earlier ones. -/
def LogicalLine.Precedes (a b : LogicalLine) : Prop :=
  a.span = b.span ∨ a.span.last < b.span.first

/-! ## One line -/

/-- A line that waits lies behind the line `lo` and ends directly before the line `n`. -/
def ReaderState.Placed (file : Text) (lo n : Nat) (s : ReaderState) : Prop :=
  ∀ p, s.pending? = some p → p.span.Inside file lo n ∧ p.span.last + 1 = n

theorem ReaderState.placed_of_none {s : ReaderState} (h : s.pending? = none) (file : Text)
    (lo n : Nat) : s.Placed file lo n := by
  intro p hp
  rw [h] at hp
  cases hp

/-- Before the first line nothing waits. -/
theorem ReaderState.placed_start (file : Text) : ReaderState.Placed file 1 1 {} :=
  placed_of_none rfl file 1 1

/-- The span at which a line is read ends with that line. -/
theorem ReaderState.Placed.spanAt {file : Text} {lo n : Nat} {s : ReaderState}
    (h : s.Placed file lo n) (hlo : lo ≤ n) :
    (s.spanAt file n).Inside file lo (n + 1) ∧ (s.spanAt file n).last = n := by
  cases hp : s.pending? with
  | none =>
    rw [spanAt_of_none hp]
    exact ⟨⟨rfl, hlo, Nat.le_refl n, Nat.lt_succ_self n⟩, rfl⟩
  | some p =>
    -- the line that waits is continued up to the line `n`
    rcases h p hp with ⟨hin, hend⟩
    have hfirst := hin.first_le_last
    have hlast : (p.span.through (.line file n)).last = n := by
      simp only [Span.through, Span.lines, Span.line]
      omega
    rw [spanAt_of_some hp]
    refine ⟨⟨hin.file_eq, hin.le_first, ?_, ?_⟩, hlast⟩
    · rw [hlast]
      simp only [Span.through, Span.lines]
      omega
    · rw [hlast]
      exact Nat.lt_succ_self n

/-- A reading that is placed gives lines at its place, or keeps a line waiting there. -/
theorem Reading.place_eq_ok {r : Reading} {depth : Nat} {span : Span} {s : ReaderState}
    {out : List LogicalLine} (h : r.place depth span = .ok (s, out)) :
    (s.pending? = none ∧ ∀ l ∈ out, l.span = span) ∨
      (∃ head, s.pending? = some ⟨head, span⟩) ∧ out = [] := by
  cases r with
  | skips depth' =>
    cases h
    exact .inl ⟨rfl, by simp⟩
  | waits head =>
    cases h
    exact .inr ⟨⟨head, rfl⟩, rfl⟩
  | emits texts =>
    cases h
    exact .inl ⟨rfl, by simp⟩
  | fails cause => cases h

theorem Reading.place_eq_error {r : Reading} {depth : Nat} {span : Span} {f : Fault}
    (h : r.place depth span = .error f) : r = .fails f.cause ∧ f.span = span := by
  cases r with
  | skips depth' => cases h
  | waits head => cases h
  | emits texts => cases h
  | fails cause =>
    cases h
    exact ⟨rfl, rfl⟩

/-! ## Runs -/

namespace SourceMode

variable {m : SourceMode} {s s' : ReaderState} {lo n : Nat} {l : Text} {ls : List Text}
  {out : List LogicalLine}

/-- A run that succeeds begins with a line that is placed, and goes on behind it. -/
theorem run_cons_eq_ok (h : m.run s n (l :: ls) = .ok (s', out)) :
    ∃ s₁ now rest, (s.reading m.strict l).place s.depth (s.spanAt m.file n) = .ok (s₁, now) ∧
      m.run s₁ (n + 1) ls = .ok (s', rest) ∧ out = now ++ rest := by
  rw [run_cons] at h
  split at h
  · cases h
  · rename_i s₁ now hplace
    cases hrun : m.run s₁ (n + 1) ls with
    | error f => simp [hrun, Except.map] at h
    | ok r =>
      rcases r with ⟨s'', rest⟩
      simp only [hrun, Except.map, Except.ok.injEq, Prod.mk.injEq] at h
      rcases h with ⟨rfl, rfl⟩
      exact ⟨s₁, now, rest, hplace, hrun, rfl⟩

/-- A run that fails does so in its first line or behind it. -/
theorem run_cons_eq_error {f : Fault} (h : m.run s n (l :: ls) = .error f) :
    (s.reading m.strict l).place s.depth (s.spanAt m.file n) = .error f ∨
      ∃ s₁ now, (s.reading m.strict l).place s.depth (s.spanAt m.file n) = .ok (s₁, now) ∧
        m.run s₁ (n + 1) ls = .error f := by
  rw [run_cons] at h
  split at h
  · rename_i f' hplace
    cases h
    exact .inl hplace
  · rename_i s₁ now hplace
    cases hrun : m.run s₁ (n + 1) ls with
    | error f' =>
      simp only [hrun, Except.map, Except.error.injEq] at h
      exact .inr ⟨s₁, now, hplace, h ▸ hrun⟩
    | ok r => simp [hrun, Except.map] at h

/-- Behind a line the state is placed again, and what the line gave ends with it. -/
theorem placed_of_place (h : s.Placed m.file lo n) (hlo : lo ≤ n) {now : List LogicalLine}
    {s₁ : ReaderState}
    (hplace : (s.reading m.strict l).place s.depth (s.spanAt m.file n) = .ok (s₁, now)) :
    s₁.Placed m.file lo (n + 1) ∧ ∀ l ∈ now, l.span.Inside m.file lo (n + 1) := by
  rcases h.spanAt hlo with ⟨hin, hlast⟩
  rcases Reading.place_eq_ok hplace with ⟨hnone, hnow⟩ | ⟨⟨head, hsome⟩, rfl⟩
  · refine ⟨ReaderState.placed_of_none hnone _ _ _, ?_⟩
    intro l hl
    rw [hnow l hl]
    exact hin
  · refine ⟨?_, by simp⟩
    intro p hp
    rw [hsome] at hp
    cases hp
    exact ⟨hin, by rw [hlast]⟩

/-- What a run gives lies between its first and its last line, except that a line that was waiting
may begin before. -/
theorem run_inside (h : s.Placed m.file lo n) (hlo : lo ≤ n)
    (hrun : m.run s n ls = .ok (s', out)) :
    s'.Placed m.file lo (n + ls.length) ∧
      ∀ l ∈ out, l.span.Inside m.file lo (n + ls.length) := by
  induction ls generalizing s n out with
  | nil =>
    cases hrun
    exact ⟨h, by simp⟩
  | cons l ls ih =>
    rcases run_cons_eq_ok hrun with ⟨s₁, now, rest, hplace, hrest, rfl⟩
    rcases placed_of_place h hlo hplace with ⟨h₁, hnow⟩
    rw [add_length_cons]
    rcases ih h₁ (Nat.le_succ_of_le hlo) hrest with ⟨hend, hin⟩
    refine ⟨hend, List.forall_mem_append.2 ⟨?_, hin⟩⟩
    exact fun l hl => (hnow l hl).mono (Nat.le_refl lo) (Nat.le_add_right ..)

theorem run_fault_inside (h : s.Placed m.file lo n) (hlo : lo ≤ n) {f : Fault}
    (hrun : m.run s n ls = .error f) : f.span.Inside m.file lo (n + ls.length) := by
  induction ls generalizing s n with
  | nil => cases hrun
  | cons l ls ih =>
    rw [add_length_cons]
    rcases run_cons_eq_error hrun with hplace | ⟨s₁, now, hplace, hrest⟩
    · -- the fault is in the first line
      rw [(Reading.place_eq_error hplace).2]
      exact (h.spanAt hlo).1.mono (Nat.le_refl lo) (Nat.le_add_right ..)
    · exact ih (placed_of_place h hlo hplace).1 (Nat.le_succ_of_le hlo) hrest

/-- The lines of a run follow one another, except that those of one physical line share a span. -/
theorem run_ordered (h : s.Placed m.file lo n) (hlo : lo ≤ n)
    (hrun : m.run s n ls = .ok (s', out)) : out.Pairwise LogicalLine.Precedes := by
  induction ls generalizing s lo n out with
  | nil =>
    cases hrun
    exact .nil
  | cons l ls ih =>
    rcases run_cons_eq_ok hrun with ⟨s₁, now, rest, hplace, hrest, rfl⟩
    rcases placed_of_place h hlo hplace with ⟨h₁, hnow⟩
    have hordered := ih h₁ (Nat.le_succ_of_le hlo) hrest
    rcases Reading.place_eq_ok hplace with ⟨hnone, hspan⟩ | ⟨-, rfl⟩
    · -- the line is complete: the rest begins behind it
      refine List.pairwise_append.2 ⟨?_, hordered, ?_⟩
      · refine List.pairwise_of_forall_sublist fun {a b} hsub => .inl ?_
        rw [hspan a (hsub.subset (by simp)), hspan b (hsub.subset (by simp))]
      · intro a ha b hb
        have hplaced := ReaderState.placed_of_none hnone m.file (n + 1) (n + 1)
        have hbehind := (run_inside hplaced (Nat.le_refl _) hrest).2 b hb
        have hlast := (hnow a ha).last_lt
        exact .inr (Nat.lt_of_lt_of_le hlast hbehind.le_first)
    · -- the line waits, and gives nothing yet
      exact hordered

end SourceMode

/-! ## Sources -/

namespace LogicalSource

variable {m : SourceMode} {content : Text}

theorem inside_of_read {source : LogicalSource} (h : read m content = .ok source) :
    source.physicalCount = content.lines.length ∧
      ∀ l ∈ source.lines, l.span.Inside m.file 1 (content.lines.length + 1) := by
  rcases read_eq_ok_iff.1 h with ⟨s, lines, hrun, -, rfl⟩
  rw [Nat.add_comm content.lines.length]
  exact ⟨rfl, (SourceMode.run_inside (ReaderState.placed_start m.file) (Nat.le_refl 1) hrun).2⟩

theorem fault_inside_of_read {f : Fault} (h : read m content = .error f) :
    f.span.Inside m.file 1 (content.lines.length + 1) := by
  rw [Nat.add_comm content.lines.length]
  rw [read_eq] at h
  split at h
  · rename_i f' hrun
    cases h
    exact SourceMode.run_fault_inside (ReaderState.placed_start m.file) (Nat.le_refl 1) hrun
  · rename_i s lines hrun
    split at h
    · rename_i p hp
      cases h
      have hplaced := ReaderState.placed_start m.file
      exact ((SourceMode.run_inside hplaced (Nat.le_refl 1) hrun).1 p hp).1
    · cases h

/-- The lines of a source follow one another. -/
theorem ordered_of_read {source : LogicalSource} (h : read m content = .ok source) :
    source.lines.Pairwise LogicalLine.Precedes := by
  rcases read_eq_ok_iff.1 h with ⟨s, lines, hrun, -, rfl⟩
  exact SourceMode.run_ordered (ReaderState.placed_start m.file) (Nat.le_refl 1) hrun

end LogicalSource

end ScriptScan
