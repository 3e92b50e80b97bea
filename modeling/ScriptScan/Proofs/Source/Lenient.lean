import ScriptScan.Proofs.Line.Continuation
import ScriptScan.Proofs.Source.Faults
import ScriptScan.Proofs.Source.Moved
import ScriptScan.Proofs.Source.Portions

/-!
# Sources that end too early

The only thing that can be wrong with a source when strict mode is off is that it ends in a line
that waits to be continued. The line waits from a physical line on before which nothing is open, up
to the end (`SourceMode.waits_of_run`), so any further line that asks for nothing completes it, and
leaves what was read before as it is (`SourceMode.run_completed`). A line waits at the end only if
the last physical line asks for it.
-/

namespace ScriptScan

/-! ## One line -/

theorem Reading.asksForMore_of_waits {strict : Bool} {text head : Text}
    (h : ofText strict text = .waits head) : text.AsksForMore := by
  unfold ofText at h
  split at h
  · rename_i head' hcont
    rw [← Text.isSome_beforeContinuation?_iff, hcont]
    rfl
  · split at h <;> cases h

/-- Outside of strict mode a text that does not ask for more gives texts. -/
theorem Reading.exists_emits {text : Text} (h : ¬text.AsksForMore) :
    ∃ texts, ofText false text = .emits texts := by
  unfold ofText
  rw [Text.beforeContinuation?_eq_none_iff.2 h]
  cases hexpand : expand false (modernize text) with
  | ok texts => exact ⟨texts, rfl⟩
  | error cause => cases (expand_eq_error hexpand).1

theorem ReaderState.eq_start {s : ReaderState} (hdepth : s.depth = 0) (hp : s.pending? = none) :
    s = {} := by
  cases s
  cases hdepth
  cases hp
  rfl

/-- A physical line behind which something waits asks for more, and it continues a line or stands
outside of block comments. -/
theorem ReaderState.asksForMore_of_waits {s : ReaderState} {strict : Bool} {l head : Text}
    (h : s.reading strict l = .waits head) :
    l.stripped.AsksForMore ∧ (s.pending? = none → s.depth = 0) := by
  obtain ⟨depth, _ | p⟩ := s
  · rw [reading_of_none] at h
    split at h
    · cases h
    · split at h
      · cases h
      · exact ⟨Reading.asksForMore_of_waits h, fun _ => Nat.eq_zero_of_not_pos ‹_›⟩
  · rw [reading_of_some] at h
    exact ⟨(Text.asksForMore_append_iff _ _).1 (Reading.asksForMore_of_waits h), nofun⟩

/-- What is known where something waits behind a line. -/
theorem Reading.place_eq_ok_of_pending {r : Reading} {depth : Nat} {span : Span} {s : ReaderState}
    {p : Pending} {out : List LogicalLine} (h : r.place depth span = .ok (s, out))
    (hp : s.pending? = some p) :
    (∃ head, r = .waits head) ∧ p.span = span ∧ s.depth = depth ∧ out = [] := by
  cases r with
  | skips depth' =>
    cases h
    cases hp
  | waits head =>
    cases h
    cases hp
    exact ⟨⟨head, rfl⟩, rfl, rfl, rfl⟩
  | emits texts =>
    cases h
    cases hp
  | fails cause => cases h

/-! ## Runs -/

namespace SourceMode

variable {m : SourceMode} {s : ReaderState} {p : Pending} {l : Text} {ls : List Text}
  {out : List LogicalLine}

/-- A run that succeeds ends with a line that is placed. -/
theorem run_concat_eq_ok (h : m.run {} 1 (ls ++ [l]) = .ok (s, out)) :
    ∃ s₁ before now, m.run {} 1 ls = .ok (s₁, before) ∧
      (s₁.reading m.strict l).place s₁.depth (s₁.spanAt m.file (ls.length + 1)) = .ok (s, now) ∧
      out = before ++ now := by
  rw [run_append] at h
  cases hrun : m.run {} 1 ls with
  | error f =>
    rw [hrun] at h
    cases h
  | ok r =>
    obtain ⟨s₁, before⟩ := r
    rw [hrun, Nat.add_comm] at h
    dsimp only at h
    cases hlast : m.run s₁ (ls.length + 1) [l] with
    | error f =>
      rw [hlast] at h
      cases h
    | ok r =>
      rw [hlast] at h
      cases h
      obtain ⟨s₂, now, rest, hplace, hrest, heq⟩ := run_cons_eq_ok hlast
      cases hrest
      exact ⟨s₁, before, now, rfl, hplace, by rw [heq, List.append_nil]⟩

/-- A line that waits at the end of a run has begun at a line before which nothing is open, and
everything that was read comes from before it. The last of the lines asks for more. -/
theorem waits_of_run (hrun : m.run {} 1 ls = .ok (s, out)) (hp : s.pending? = some p) :
    s.depth = 0 ∧ (∃ l, ls.getLast? = some l ∧ l.stripped.AsksForMore) ∧
      ∃ k, k < ls.length ∧ p.span = ⟨m.file, k + 1, ls.length⟩ ∧ m.Reads (ls.take k) out := by
  induction ls using List.reverseRecOn generalizing s p out with
  | nil =>
    cases hrun
    cases hp
  | append_singleton ls l ih =>
    obtain ⟨s₁, before, now, hbefore, hplace, rfl⟩ := run_concat_eq_ok hrun
    obtain ⟨⟨head, hreading⟩, hspan, hdepth, rfl⟩ := Reading.place_eq_ok_of_pending hplace hp
    obtain ⟨hmore, hfresh⟩ := ReaderState.asksForMore_of_waits hreading
    rw [List.append_nil, List.length_append, List.length_singleton]
    have hlast : (ls ++ [l]).getLast? = some l := List.getLast?_concat
    cases hp₁ : s₁.pending? with
    | none =>
      -- the line begins here: nothing waited before it, and no comment was open
      have hs₁ : s₁ = {} := ReaderState.eq_start (hfresh hp₁) hp₁
      rw [ReaderState.spanAt_of_none hp₁] at hspan
      refine ⟨?_, ⟨l, hlast, hmore⟩, ls.length, Nat.lt_succ_self _, hspan, ?_⟩
      · rw [hdepth, hs₁]
      · rw [List.take_left, Reads, hbefore, hs₁]
    | some p₁ =>
      obtain ⟨hdepth₁, -, k, hk, hspan₁, hreads⟩ := ih hbefore hp₁
      rw [ReaderState.spanAt_of_some hp₁, hspan₁] at hspan
      have hmax : max (k + 1) (ls.length + 1) = ls.length + 1 := by omega
      refine ⟨hdepth.trans hdepth₁, ⟨l, hlast, hmore⟩, k, by omega, ?_, ?_⟩
      · rw [hspan]
        simp only [Span.through, Span.lines, Span.line, hmax]
      · rw [List.take_append_of_le_length (by omega)]
        exact hreads

/-- Outside of strict mode a run always comes to an end. -/
theorem exists_run (file : Text) (n : Nat) (ls : List Text) :
    ∃ s out, run ⟨file, false⟩ {} n ls = .ok (s, out) := by
  cases hrun : run ⟨file, false⟩ {} n ls with
  | ok r => exact ⟨r.1, r.2, rfl⟩
  | error f => cases (cause_of_run hrun).1

/-- A further line that asks for nothing completes a line that waits. What was read before stays as
it is. -/
theorem run_completed {file : Text} {k : Nat} (hdepth : s.depth = 0) (hp : s.pending? = some p)
    (hspan : p.span = ⟨file, k + 1, ls.length⟩) (hk : k < ls.length)
    (hrun : run ⟨file, false⟩ {} 1 ls = .ok (s, out)) (hl : ¬l.stripped.AsksForMore) :
    ∃ texts : List Text, run ⟨file, false⟩ {} 1 (ls ++ [l]) =
      .ok ({}, out ++ texts.map (⟨·, ⟨file, k + 1, ls.length + 1⟩⟩)) := by
  obtain ⟨depth, pending?⟩ := s
  cases hdepth
  cases hp
  obtain ⟨texts, hemits⟩ := Reading.exists_emits fun hmore =>
    hl ((Text.asksForMore_append_iff _ p.head).1 hmore)
  have hmax : max (k + 1) (ls.length + 1) = ls.length + 1 := by omega
  refine ⟨texts, ?_⟩
  rw [run_append, hrun]
  dsimp only
  rw [run_cons, ReaderState.reading_of_some, hemits, ReaderState.spanAt_of_some rfl, hspan,
    Nat.add_comm 1]
  simp [Reading.place, Except.map, Span.through, Span.lines, Span.line, hmax]

end SourceMode

/-! ## Sources -/

namespace LogicalSource

open SourceMode

variable {file content : Text}

/-- Outside of strict mode a source reads unless a line waits at its end. -/
theorem read_lenient_cases (file content : Text) :
    (∃ source, read ⟨file, false⟩ content = .ok source) ∨
      ∃ s p out, run ⟨file, false⟩ {} 1 content.lines = .ok (s, out) ∧ s.pending? = some p ∧
        read ⟨file, false⟩ content = .error ⟨.danglingContinuation, p.span⟩ := by
  obtain ⟨s, out, hrun⟩ := exists_run file 1 content.lines
  cases hp : s.pending? with
  | none => exact .inl ⟨_, read_eq_ok_iff.2 ⟨s, out, hrun, hp, rfl⟩⟩
  | some p =>
    refine .inr ⟨s, p, out, hrun, hp, ?_⟩
    rw [read_eq, hrun]
    simp only [hp]

/-- A block comment that is open before the last line keeps it from waiting. -/
theorem exists_read_of_inComment {s : ReaderState} {out : List LogicalLine}
    (hrun : run ⟨file, false⟩ {} 1 content.lines.dropLast = .ok (s, out))
    (hfresh : s.pending? = none) (hdepth : 0 < s.depth) :
    ∃ source, read ⟨file, false⟩ content = .ok source := by
  rcases read_lenient_cases file content with hread | ⟨s', p, out', hall, hp, -⟩
  · exact hread
  · exfalso
    rcases List.eq_nil_or_concat content.lines with hnil | ⟨before, l, hlines⟩
    · rw [hnil] at hrun
      cases hrun
      exact absurd hdepth (Nat.lt_irrefl 0)
    · rw [hlines, List.concat_eq_append] at hrun hall
      rw [List.dropLast_concat] at hrun
      obtain ⟨s₁, out₁, now, hbefore, hplace, -⟩ := run_concat_eq_ok hall
      rw [hrun] at hbefore
      cases hbefore
      obtain ⟨⟨head, hreading⟩, -⟩ := Reading.place_eq_ok_of_pending hplace hp
      have hzero := (ReaderState.asksForMore_of_waits hreading).2 hfresh
      omega

/-- Outside of strict mode only one thing can be wrong with a source: a line waits at its end. Then
the lines before it read on their own, the last physical line asks for more, and any further one
that does not makes the source readable. A source reads if its last line does not ask for more, and
also if that line stands in a block comment. -/
theorem read_lenient (file content : Text) :
    (∀ f, read ⟨file, false⟩ content = .error f →
      ∃ k out, k < content.lines.length ∧
        f = ⟨.danglingContinuation, ⟨file, k + 1, content.lines.length⟩⟩ ∧
        (∃ l, content.lines.getLast? = some l ∧ l.stripped.AsksForMore) ∧
        Reads ⟨file, false⟩ (content.lines.take k) out ∧
        ∀ longer l, Text.lines longer = content.lines ++ [l] → ¬l.stripped.AsksForMore →
          ∃ texts : List Text, read ⟨file, false⟩ longer =
            .ok ⟨out ++ texts.map (⟨·, ⟨file, k + 1, content.lines.length + 1⟩⟩),
              content.lines.length + 1⟩) ∧
      ((∀ l, content.lines.getLast? = some l → ¬l.stripped.AsksForMore) →
        ∃ source, read ⟨file, false⟩ content = .ok source) ∧
      ∀ s out, run ⟨file, false⟩ {} 1 content.lines.dropLast = .ok (s, out) →
        s.pending? = none → 0 < s.depth → ∃ source, read ⟨file, false⟩ content = .ok source := by
  refine ⟨?_, ?_, fun s out => exists_read_of_inComment⟩
  · intro f hf
    rcases read_lenient_cases file content with ⟨source, hread⟩ | ⟨s, p, out, hrun, hp, hread⟩
    · rw [hread] at hf
      cases hf
    · rw [hread] at hf
      cases hf
      obtain ⟨hdepth, hlast, k, hk, hspan, hreads⟩ := waits_of_run hrun hp
      refine ⟨k, out, hk, by rw [hspan], hlast, hreads, ?_⟩
      intro longer l hlines hl
      obtain ⟨texts, hlonger⟩ := run_completed hdepth hp hspan hk hrun hl
      refine ⟨texts, ?_⟩
      rw [← hlines] at hlonger
      rw [read_eq, hlonger, hlines, List.length_append, List.length_singleton]
  · intro hlast
    rcases read_lenient_cases file content with hread | ⟨s, p, out, hrun, hp, -⟩
    · exact hread
    · obtain ⟨-, ⟨l, hl, hmore⟩, -⟩ := waits_of_run hrun hp
      exact absurd hmore (hlast l hl)

/-- The last two lines wait, one of them behind a comment; a blank line completes them. A marker in
a comment that is open does not wait. -/
theorem read_lenient_sample :
    (∃ texts : List Text, read ⟨"a.au3".toList, false⟩ "x\n#cs\n_\n#ce\nf _ ; more\n _\n\n".toList =
      .ok ⟨⟨"x".toList, ⟨"a.au3".toList, 1, 1⟩⟩ ::
        texts.map (⟨·, ⟨"a.au3".toList, 5, 7⟩⟩), 7⟩) ∧
      (∃ source, read ⟨"a.au3".toList, false⟩ "x _\ny ; _".toList = .ok source) ∧
      ∃ source, read ⟨"a.au3".toList, false⟩ "x\n#cs\ny _".toList = .ok source := by
  refine ⟨?_, ?_, ?_⟩
  · have hread : read ⟨"a.au3".toList, false⟩ "x\n#cs\n_\n#ce\nf _ ; more\n _\n".toList =
        .error ⟨.danglingContinuation, ⟨"a.au3".toList, 5, 6⟩⟩ := by
      decide +kernel
    obtain ⟨k, out, hk, hf, -, hreads, hlonger⟩ := (read_lenient _ _).1 _ hread
    cases hf
    have hbefore : Reads ⟨"a.au3".toList, false⟩
        ((Text.lines "x\n#cs\n_\n#ce\nf _ ; more\n _\n".toList).take 4)
        [⟨"x".toList, ⟨"a.au3".toList, 1, 1⟩⟩] := by
      decide +kernel
    have hout : out = [⟨"x".toList, ⟨"a.au3".toList, 1, 1⟩⟩] := by
      rw [Reads, hbefore] at hreads
      cases hreads
      rfl
    rw [hout] at hlonger
    exact hlonger _ [] (by decide) (by decide)
  · refine (read_lenient _ _).2.1 ?_
    intro l hl
    have hlast : (Text.lines "x _\ny ; _".toList).getLast? = some "y ; _".toList := by decide
    rw [hlast] at hl
    cases hl
    decide
  · have hrun : run ⟨"a.au3".toList, false⟩ {} 1 (Text.lines "x\n#cs\ny _".toList).dropLast =
        .ok (⟨1, none⟩, [⟨"x".toList, ⟨"a.au3".toList, 1, 1⟩⟩]) := by
      decide +kernel
    exact (read_lenient _ _).2.2 _ _ hrun rfl (by decide)

end LogicalSource

end ScriptScan
