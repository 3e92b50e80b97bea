import ScriptScan.Proofs.Source.Spans

/-!
# The portions of a source

The physical lines of a source fall into portions. A portion is a line that leaves nothing (a
marker, or a line inside a block comment), or a line together with all lines that continue it.
Nothing is told here by a reader with a state: `Text.Joins` says which lines continue a line,
`Portion.Reads` what a portion is, and `Portion.logical` gives every portion the place of its own
lines.

`LogicalSource.read_eq_ok_iff_portions` says that the reader accepts a source exactly if it falls
into portions, and then answers with what they make.
-/

namespace ScriptScan

/-! ## Continued lines -/

/-- What the reader looks at in a physical line: the line without indentation and comment. -/
def Text.stripped (physical : Text) : Text :=
  physical.trimStart.stripComment

/-- `Joins text more whole`: the text is continued by the physical lines `more`, up to and including
the first one without a continuation marker, and all together are the text `whole`. -/
inductive Text.Joins : Text → List Text → Text → Prop where
  | complete {text : Text} (h : beforeContinuation? text = none) : Joins text [] text
  | continued {text head l whole : Text} {more : List Text}
      (h : beforeContinuation? text = some head)
      (hrest : Joins (head ++ ' ' :: l.stripped) more whole) : Joins text (l :: more) whole

/-- The whole asks for no more. -/
theorem Text.Joins.complete_whole {text whole : Text} {more : List Text}
    (h : text.Joins more whole) : beforeContinuation? whole = none := by
  induction h with
  | complete h => exact h
  | continued h hrest ih => exact ih

/-! ## Portions -/

/-- A portion of the physical lines of a source. -/
inductive Portion where
  /-- A line that leaves nothing. -/
  | skipped (physical : Text)
  /-- A line, the lines that continue it, and the texts that they make. -/
  | joined (physical : Text) (more texts : List Text)

/-- The depth of block comments behind a marker. -/
def Marker.depthBehind (depth : Nat) : Marker → Nat
  | commentStart => depth + 1
  | commentEnd => depth - 1
  | region => depth

namespace Portion

/-- The physical lines of a portion. -/
def physical : Portion → List Text
  | skipped l => [l]
  | joined l more _ => l :: more

/-- The texts that a portion makes. -/
def texts : Portion → List Text
  | skipped _ => []
  | joined _ _ texts => texts

/-- `Reads strict depth p depth'`: at the given depth of block comments the lines of `p` are a
portion, and behind it the depth is `depth'`. -/
inductive Reads (strict : Bool) (depth : Nat) : Portion → Nat → Prop where
  | marker (l : Text) (marker : Marker) (h : Marker.ofPhysical? l = some marker) :
      Reads strict depth (skipped l) (marker.depthBehind depth)
  | commented (l : Text) (h : Marker.ofPhysical? l = none) (hdepth : 0 < depth) :
      Reads strict depth (skipped l) depth
  | statement (l : Text) (more texts : List Text) (whole : Text)
      (h : Marker.ofPhysical? l = none) (hdepth : depth = 0)
      (hjoins : l.stripped.Joins more whole)
      (hexpand : expand strict (modernize whole) = .ok texts) :
      Reads strict depth (joined l more texts) 0

/-- Portions one after the other. -/
inductive ReadsAll (strict : Bool) : Nat → List Portion → Nat → Prop where
  | nil (depth : Nat) : ReadsAll strict depth [] depth
  | cons {depth depth' depth'' : Nat} {p : Portion} {ps : List Portion}
      (hp : Reads strict depth p depth') (hps : ReadsAll strict depth' ps depth'') :
      ReadsAll strict depth (p :: ps) depth''

/-- The logical lines of some portions, the first of which begins at the `n`-th line of a file. Each
has the place of the lines of its portion. -/
def logical (file : Text) : Nat → List Portion → List LogicalLine
  | _, [] => []
  | n, p :: ps =>
    p.texts.map (⟨·, ⟨file, n, n + p.physical.length - 1⟩⟩) ++
      logical file (n + p.physical.length) ps

end Portion

/-! ## The reader along portions -/

theorem Span.through_through (s t u : Span) : (s.through t).through u = s.through u := rfl

theorem Span.line_through_line (file : Text) (n k : Nat) :
    (line file n).through (line file (n + k)) = ⟨file, n, n + k⟩ := by
  simp [through, lines, line]

/-- In a state in which a line waits, the next physical line continues it. -/
theorem ReaderState.reading_of_some {depth : Nat} {p : Pending} (strict : Bool) (l : Text) :
    reading ⟨depth, some p⟩ strict l = .ofText strict (p.head ++ ' ' :: l.stripped) := rfl

/-- Where no line waits, a physical line is a marker, a comment, or begins a line. -/
theorem ReaderState.reading_of_none (depth : Nat) (strict : Bool) (l : Text) :
    reading ⟨depth, none⟩ strict l =
      match Marker.ofPhysical? l with
      | some marker => .skips (marker.depthBehind depth)
      | none => if 0 < depth then .skips depth else .ofText strict l.stripped := by
  unfold reading Text.stripped
  cases Marker.ofPhysical? l with
  | none => rfl
  | some marker => cases marker <;> rfl

/-- A text that is read waits for the line that continues it, or makes its texts. -/
theorem Reading.place_ofText_cases {strict : Bool} {text : Text} {depth : Nat} {span : Span}
    {s : ReaderState} {out : List LogicalLine}
    (h : (ofText strict text).place depth span = .ok (s, out)) :
    (∃ head, beforeContinuation? text = some head ∧ s = ⟨depth, some ⟨head, span⟩⟩ ∧ out = []) ∨
      ∃ texts, beforeContinuation? text = none ∧ expand strict (modernize text) = .ok texts ∧
        s = ⟨depth, none⟩ ∧ out = texts.map (⟨·, span⟩) := by
  unfold ofText at h
  cases hcont : beforeContinuation? text with
  | some head =>
    rw [hcont] at h
    cases h
    exact .inl ⟨head, rfl, rfl, rfl⟩
  | none =>
    rw [hcont] at h
    cases hexpand : expand strict (modernize text) with
    | error cause =>
      rw [hexpand] at h
      cases h
    | ok texts =>
      rw [hexpand] at h
      cases h
      exact .inr ⟨texts, rfl, rfl, rfl, rfl⟩

namespace SourceMode

variable {m : SourceMode} {s' : ReaderState} {n : Nat} {l text whole : Text}
  {ls more post texts : List Text} {out now rest : List LogicalLine}

/-- The run behind a line that may have to be continued goes on with the lines that continue it.
The line begins where `base` does. -/
theorem joins_of_run {base : Span} {s₁ : ReaderState}
    (hplace : (Reading.ofText m.strict text).place 0 (base.through (.line m.file n)) =
      .ok (s₁, now))
    (hrun : m.run s₁ (n + 1) ls = .ok (s', rest)) (hend : s'.pending? = none) :
    ∃ more post whole texts rest', ls = more ++ post ∧ text.Joins more whole ∧
      expand m.strict (modernize whole) = .ok texts ∧
      m.run {} (n + more.length + 1) post = .ok (s', rest') ∧
      now ++ rest =
        texts.map (⟨·, base.through (.line m.file (n + more.length))⟩) ++ rest' := by
  induction ls generalizing n text s₁ now rest with
  | nil =>
    cases hrun
    rcases Reading.place_ofText_cases hplace with
      ⟨head, -, rfl, -⟩ | ⟨texts, hcont, hexpand, rfl, rfl⟩
    · -- the source would end in a line that waits
      cases hend
    · exact ⟨[], [], text, texts, [], rfl, .complete hcont, hexpand, rfl, rfl⟩
  | cons l ls ih =>
    rcases Reading.place_ofText_cases hplace with
      ⟨head, hcont, rfl, rfl⟩ | ⟨texts, hcont, hexpand, rfl, rfl⟩
    · obtain ⟨s₂, now', rest', hplace', hrun', rfl⟩ := run_cons_eq_ok hrun
      rw [ReaderState.reading_of_some, ReaderState.spanAt_of_some rfl, Span.through_through]
        at hplace'
      obtain ⟨more, post, whole, texts, rest'', rfl, hjoins, hexpand, hpost, hout⟩ :=
        ih hplace' hrun'
      refine ⟨l :: more, post, whole, texts, rest'', rfl, .continued hcont hjoins, hexpand, ?_, ?_⟩
      · rw [add_length_cons]
        exact hpost
      · rw [add_length_cons]
        exact hout
    · exact ⟨[], l :: ls, text, texts, rest, rfl, .complete hcont, hexpand, hrun, rfl⟩

/-- The lines of a run that comes to an end fall into portions. -/
theorem portions_of_run {depth : Nat} (hrun : m.run ⟨depth, none⟩ n ls = .ok (s', out))
    (hend : s'.pending? = none) :
    ∃ ps, Portion.ReadsAll m.strict depth ps s'.depth ∧ ls = ps.flatMap Portion.physical ∧
      out = Portion.logical m.file n ps := by
  -- the lines behind a portion are a rest of the lines, so the induction is on their number
  induction hlength : ls.length using Nat.strongRecOn generalizing depth n ls out with
  | ind k ih =>
    cases ls with
    | nil =>
      cases hrun
      exact ⟨[], .nil depth, rfl, rfl⟩
    | cons l ls =>
      rw [List.length_cons] at hlength
      obtain ⟨s₁, now, rest, hplace, hrest, rfl⟩ := run_cons_eq_ok hrun
      rw [ReaderState.reading_of_none, ReaderState.spanAt_of_none rfl] at hplace
      cases hmarker : Marker.ofPhysical? l with
      | some marker =>
        rw [hmarker] at hplace
        cases hplace
        obtain ⟨ps, hps, rfl, rfl⟩ := ih ls.length (by omega) hrest rfl
        exact ⟨.skipped l :: ps, .cons (.marker l marker hmarker) hps, rfl, rfl⟩
      | none =>
        rw [hmarker] at hplace
        by_cases hdepth : 0 < depth
        · simp only [hdepth, if_true] at hplace
          cases hplace
          obtain ⟨ps, hps, rfl, rfl⟩ := ih ls.length (by omega) hrest rfl
          exact ⟨.skipped l :: ps, .cons (.commented l hmarker hdepth) hps, rfl, rfl⟩
        · have hzero : depth = 0 := by omega
          subst hzero
          simp only [Nat.lt_irrefl, if_false] at hplace
          have hself : (Span.line m.file n).through (.line m.file n) = .line m.file n :=
            Span.line_through_line m.file n 0
          rw [← hself] at hplace
          obtain ⟨more, post, whole, texts, rest', rfl, hjoins, hexpand, hpost, hout⟩ :=
            joins_of_run hplace hrest hend
          have hbehind : n + more.length + 1 = n + (l :: more).length := by
            rw [List.length_cons]
            omega
          rw [hbehind] at hpost
          rw [List.length_append] at hlength
          obtain ⟨ps, hps, rfl, rfl⟩ := ih post.length (by omega) hpost rfl
          refine ⟨.joined l more texts :: ps,
            .cons (.statement l more texts whole hmarker rfl hjoins hexpand) hps, rfl, ?_⟩
          rw [hout, Span.line_through_line]
          rfl

/-- A line with the lines that continue it is read like the whole that they make, at the place of
all of them. -/
theorem run_joins {base : Span} {s : ReaderState} (hjoins : text.Joins more whole)
    (hreading : s.reading m.strict l = .ofText m.strict text) (hdepth : s.depth = 0)
    (hspan : s.spanAt m.file n = base.through (.line m.file n)) :
    m.run s n (l :: more) =
      (Reading.ofText m.strict whole).place 0
        (base.through (.line m.file (n + more.length))) := by
  induction hjoins generalizing s n l with
  | @complete text hcont =>
    rw [run_cons, hreading, hdepth, hspan]
    cases (Reading.ofText m.strict text).place 0 (base.through (.line m.file n)) with
    | error f => rfl
    | ok r => simp [Except.map]
  | @continued text head l' whole more hcont hrest ih =>
    have hplace : (Reading.ofText m.strict text).place 0 (s.spanAt m.file n) =
        .ok (⟨0, some ⟨head, s.spanAt m.file n⟩⟩, []) := by
      rw [Reading.ofText, hcont]
      rfl
    have hwaits : ReaderState.spanAt ⟨0, some ⟨head, s.spanAt m.file n⟩⟩ m.file (n + 1) =
        base.through (.line m.file (n + 1)) := by
      rw [ReaderState.spanAt_of_some rfl, hspan, Span.through_through]
    rw [run_cons, hreading, hdepth, hplace]
    dsimp only
    rw [ih (ReaderState.reading_of_some _ _) rfl hwaits, add_length_cons n l']
    cases (Reading.ofText m.strict whole).place 0
      (base.through (.line m.file (n + 1 + more.length))) <;> rfl

/-- Where nothing is open, a line that is no marker is read with the lines that continue it. -/
theorem run_whole (h : Marker.ofPhysical? l = none) (hjoins : l.stripped.Joins more whole) :
    m.run {} n (l :: more) =
      (Reading.ofText m.strict whole).place 0 ⟨m.file, n, n + more.length⟩ := by
  have hreading := ReaderState.reading_of_none 0 m.strict l
  rw [h] at hreading
  have hspan : ReaderState.spanAt {} m.file n = (Span.line m.file n).through (.line m.file n) :=
    (Span.line_through_line m.file n 0).symm
  rw [run_joins hjoins hreading rfl hspan, Span.line_through_line]

/-- A line with the lines that continue it is read as what they make, and the rest behind them. -/
theorem run_of_joins {base : Span} {s : ReaderState} (hjoins : text.Joins more whole)
    (hexpand : expand m.strict (modernize whole) = .ok texts)
    (hreading : s.reading m.strict l = .ofText m.strict text) (hdepth : s.depth = 0)
    (hspan : s.spanAt m.file n = base.through (.line m.file n)) (post : List Text) :
    m.run s n (l :: more ++ post) =
      (m.run {} (n + (l :: more).length) post).map fun (s', rest) =>
        (s', texts.map (⟨·, base.through (.line m.file (n + more.length))⟩) ++ rest) := by
  have hwhole : Reading.ofText m.strict whole = .emits texts := by
    simp only [Reading.ofText, hjoins.complete_whole, hexpand]
  rw [run_append, run_joins hjoins hreading hdepth hspan, hwhole]
  rfl

/-- Portions are read as what they make. -/
theorem run_of_portions {depth depth' : Nat} {ps : List Portion}
    (h : Portion.ReadsAll m.strict depth ps depth') :
    m.run ⟨depth, none⟩ n (ps.flatMap Portion.physical) =
      .ok (⟨depth', none⟩, Portion.logical m.file n ps) := by
  induction h generalizing n with
  | nil depth => rfl
  | @cons depth depth' depth'' p ps hp hps ih =>
    rw [List.flatMap_cons]
    cases hp with
    | marker l marker hmarker =>
      have hreading := ReaderState.reading_of_none depth m.strict l
      rw [hmarker] at hreading
      rw [Portion.physical, List.singleton_append, run_cons, hreading]
      dsimp only [Reading.place]
      rw [ih]
      rfl
    | commented l hmarker hdepth =>
      have hreading := ReaderState.reading_of_none depth m.strict l
      rw [hmarker] at hreading
      simp only [hdepth, if_true] at hreading
      rw [Portion.physical, List.singleton_append, run_cons, hreading]
      dsimp only [Reading.place]
      rw [ih]
      rfl
    | statement l more texts whole hmarker hdepth hjoins hexpand =>
      subst hdepth
      have hreading := ReaderState.reading_of_none 0 m.strict l
      rw [hmarker] at hreading
      have hspan : ReaderState.spanAt {} m.file n =
          (Span.line m.file n).through (.line m.file n) :=
        (Span.line_through_line m.file n 0).symm
      rw [Portion.physical, run_of_joins hjoins hexpand hreading rfl hspan, ih,
        Span.line_through_line]
      rfl

end SourceMode

/-- The reader accepts a source exactly if its lines fall into portions, and answers with what these
make. -/
theorem LogicalSource.read_eq_ok_iff_portions {m : SourceMode} {content : Text}
    {source : LogicalSource} :
    read m content = .ok source ↔
      ∃ ps depth, Portion.ReadsAll m.strict 0 ps depth ∧
        content.lines = ps.flatMap Portion.physical ∧
        source = ⟨Portion.logical m.file 1 ps, content.lines.length⟩ := by
  rw [read_eq_ok_iff]
  constructor
  · rintro ⟨s, lines, hrun, hend, rfl⟩
    obtain ⟨ps, hps, hlines, rfl⟩ := SourceMode.portions_of_run hrun hend
    exact ⟨ps, s.depth, hps, hlines, rfl⟩
  · rintro ⟨ps, depth, hps, hlines, rfl⟩
    refine ⟨⟨depth, none⟩, _, ?_, rfl, rfl⟩
    rw [hlines]
    exact SourceMode.run_of_portions hps

end ScriptScan
