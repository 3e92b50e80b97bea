import Mathlib.Data.List.Nodup
import ScriptScan.Proofs.Line.Nesting
import ScriptScan.Proofs.Line.Rule
import ScriptScan.Proofs.Source.Spans

/-!
# The lines that come of one line

The logical lines of a source come in groups: each group is the block form of one line, at the one
span of that line, and the next group begins behind it. So what a block form cannot hold twice,
stands at no span twice.

* `Expansion` is such a group; `LogicalSource.expansions_of_read` cuts a source into groups.
* `length_labels_of_expand` — a block form holds at most one label. What it is made of besides are
  lines that open and close blocks, and none of these ends with a colon.
* `LogicalSource.labelSpans_nodup` — no two labels of a source stand in one place.
-/

namespace ScriptScan

/-! ## Groups of lines -/

/-- The block form of a line, and the place of that line. -/
structure Expansion where
  texts : List Text
  span : Span

namespace Expansion

/-- The logical lines of a group. -/
def lines (e : Expansion) : List LogicalLine :=
  e.texts.map (⟨·, e.span⟩)

/-- Whether a group is the block form of some line, and lies in a file from the line `lo` to before
the line `hi`. -/
structure Valid (m : SourceMode) (lo hi : Nat) (e : Expansion) : Prop where
  expand_eq : ∃ text, expand m.strict text = .ok e.texts
  inside : e.span.Inside m.file lo hi

theorem Valid.mono {m : SourceMode} {lo lo' hi hi' : Nat} {e : Expansion} (h : e.Valid m lo hi)
    (hlo : lo' ≤ lo) (hhi : hi ≤ hi') : e.Valid m lo' hi' :=
  ⟨h.expand_eq, h.inside.mono hlo hhi⟩

end Expansion

/-- Whether some lines fall into groups, each of them behind the ones before it. -/
def SourceMode.Expands (m : SourceMode) (lo hi : Nat) (ls : List LogicalLine) : Prop :=
  ∃ es : List Expansion, ls = es.flatMap Expansion.lines ∧ (∀ e ∈ es, e.Valid m lo hi) ∧
    es.Pairwise fun e e' => e.span.last < e'.span.first

namespace SourceMode

variable {m : SourceMode} {s s' : ReaderState} {lo lo' hi n : Nat} {l : Text} {ls : List Text}
  {out : List LogicalLine}

theorem expands_nil (m : SourceMode) (lo hi : Nat) : m.Expands lo hi [] :=
  ⟨[], rfl, by simp, .nil⟩

/-- A group before some lines that begin behind it. -/
theorem Expands.cons {e : Expansion} (he : e.Valid m lo lo') (h : m.Expands lo' hi out)
    (hlo : lo ≤ lo') (hhi : lo' ≤ hi) : m.Expands lo hi (e.lines ++ out) := by
  obtain ⟨es, rfl, hvalid, hordered⟩ := h
  refine ⟨e :: es, by rw [List.flatMap_cons], ?_, ?_⟩
  · rw [List.forall_mem_cons]
    exact ⟨he.mono (Nat.le_refl lo) hhi, fun e' he' => (hvalid e' he').mono hlo (Nat.le_refl hi)⟩
  · refine List.pairwise_cons.2 ⟨?_, hordered⟩
    intro e' he'
    exact Nat.lt_of_lt_of_le he.inside.last_lt (hvalid e' he').inside.le_first

/-- What a line completes is the block form of some line. -/
theorem expand_of_emits {text : Text} {texts : List Text}
    (h : Reading.ofText m.strict text = .emits texts) : ∃ t, expand m.strict t = .ok texts := by
  unfold Reading.ofText at h
  split at h
  · cases h
  · split at h
    · rename_i texts' hexpand
      cases h
      exact ⟨_, hexpand⟩
    · cases h

theorem expand_of_reading {texts : List Text} (h : s.reading m.strict l = .emits texts) :
    ∃ t, expand m.strict t = .ok texts := by
  unfold ReaderState.reading at h
  split at h
  · exact expand_of_emits h
  · split at h
    · cases h
    · cases h
    · cases h
    · split at h
      · cases h
      · exact expand_of_emits h

/-- The lines of a run fall into groups. -/
theorem expands_of_run (h : s.Placed m.file lo n) (hlo : lo ≤ n)
    (hrun : m.run s n ls = .ok (s', out)) : m.Expands lo (n + ls.length) out := by
  induction ls generalizing s lo n out with
  | nil =>
    cases hrun
    exact expands_nil ..
  | cons l ls ih =>
    obtain ⟨s₁, now, rest, hplace, hrest, rfl⟩ := run_cons_eq_ok hrun
    have hplaced := (placed_of_place h hlo hplace).1
    rw [add_length_cons]
    cases hreading : s.reading m.strict l with
    | skips depth =>
      rw [hreading] at hplace
      cases hplace
      exact ih hplaced (Nat.le_succ_of_le hlo) hrest
    | waits head =>
      rw [hreading] at hplace
      cases hplace
      exact ih hplaced (Nat.le_succ_of_le hlo) hrest
    | emits texts =>
      rw [hreading] at hplace
      cases hplace
      -- the line is complete, so the rest begins behind it
      have hbehind := ih (ReaderState.placed_of_none rfl m.file (n + 1) (n + 1)) (Nat.le_refl _)
        hrest
      have hgroup : Expansion.Valid m lo (n + 1) ⟨texts, s.spanAt m.file n⟩ :=
        ⟨expand_of_reading hreading, (h.spanAt hlo).1⟩
      exact hbehind.cons hgroup (Nat.le_succ_of_le hlo) (Nat.le_add_right ..)
    | fails cause =>
      rw [hreading] at hplace
      cases hplace

end SourceMode

theorem LogicalSource.expansions_of_read {m : SourceMode} {content : Text} {source : LogicalSource}
    (h : read m content = .ok source) :
    m.Expands 1 (content.lines.length + 1) source.lines := by
  obtain ⟨s, lines, hrun, -, rfl⟩ := read_eq_ok_iff.1 h
  rw [Nat.add_comm content.lines.length]
  exact SourceMode.expands_of_run (ReaderState.placed_start m.file) (Nat.le_refl 1) hrun

/-! ## Label lines -/

/-- Whether a line is a label. -/
def Text.isLabel (t : Text) : Bool :=
  match LineRule.classify t with
  | some (.label _) => true
  | _ => false

namespace Text

variable {t : Text}

theorem isLabel_of_classify {name : Text} (h : LineRule.classify t = some (.label name)) :
    t.isLabel = true := by
  rw [isLabel, h]

/-- A label ends with its colon. -/
theorem getLast?_of_isLabel (h : t.isLabel = true) : t.getLast? = some ':' := by
  unfold isLabel at h
  split at h
  · rename_i name hclassify
    have hread : LineForm.readLabel? t = some (.label name) := LineRule.read?_of_classify hclassify
    unfold LineForm.readLabel? at hread
    split at hread
    · rename_i name' rest hname
      split at hread
      · rename_i hcolon
        have hrest : rest <:+ t := by
          rw [(takeName?_eq_some hname).2]
          exact List.suffix_append _ _
        have hsuffix : [':'] <:+ t := by
          rw [← hcolon]
          exact (List.dropWhile_suffix isBlank).trans hrest
        exact getLast?_of_suffix hsuffix (List.cons_ne_nil _ _)
      · cases hread
    · cases hread
  · cases h

theorem isLabel_eq_false {c : Char} (h : t.getLast? = some c) (hc : c ≠ ':') :
    t.isLabel = false := by
  rw [Bool.eq_false_iff]
  intro hlabel
  rw [getLast?_of_isLabel hlabel] at h
  exact hc (Option.some.inj h).symm

end Text

/-- What opens a block ends with the word then or with a parenthesis, so it is no label. -/
theorem BlockKind.Opens.isLabel_eq_false {k : BlockKind} {t : Text} (h : k.Opens t) :
    t.isLabel = false := by
  cases k with
  | conditional =>
    rcases h.2 with ⟨lead, word, rfl, hword, -⟩
    have hlast : (lead ++ word).getLast? = some (word.getLast hword.ne_nil) := by
      rw [List.getLast?_append_of_ne_nil lead hword.ne_nil, List.getLast?_eq_some_getLast]
    refine Text.isLabel_eq_false hlast ?_
    intro hcolon
    exact hword.not_mem (by decide) (hcolon ▸ List.getLast_mem hword.ne_nil)
  | func => exact Text.isLabel_eq_false h.2 (by decide)

theorem BlockKind.isLabel_closing (k : BlockKind) : k.closing.isLabel = false := by
  cases k <;> decide

/-- Of the lines of a block form only the innermost one may be a label. -/
theorem Block.Nests.filter_isLabel {strict : Bool} {line inner : Text} {blocks : List Block}
    {texts : List Text} (h : Nests strict line blocks inner texts) :
    texts.filter Text.isLabel = [inner].filter Text.isLabel := by
  have hopenings : (blocks.map (·.opening)).filter Text.isLabel = [] := by
    rw [List.filter_eq_nil_iff]
    intro t ht hlabel
    rcases List.mem_map.1 ht with ⟨b, hb, rfl⟩
    rw [(h.opens b hb).isLabel_eq_false] at hlabel
    cases hlabel
  have hclosings : (blocks.reverse.map (·.kind.closing)).filter Text.isLabel = [] := by
    rw [List.filter_eq_nil_iff]
    intro t ht hlabel
    rcases List.mem_map.1 ht with ⟨b, -, rfl⟩
    rw [b.kind.isLabel_closing] at hlabel
    cases hlabel
  rw [h.texts_eq, around, List.filter_append, hopenings, List.nil_append,
    ← List.singleton_append, List.filter_append, hclosings, List.append_nil]

/-- A block form holds at most one label. -/
theorem length_labels_of_expand {strict : Bool} {line : Text} {texts : List Text}
    (h : expand strict line = .ok texts) : (texts.filter Text.isLabel).length ≤ 1 := by
  rcases isBlockForm_of_expand h with ⟨-, rfl⟩ | ⟨-, blocks, inner, hnests⟩
  · exact Nat.zero_le 1
  · rw [hnests.filter_isLabel]
    exact List.length_filter_le ..

/-! ## The places of labels -/

namespace LogicalLine

/-- The places of the labels among some lines. -/
def labelSpans (ls : List LogicalLine) : List Span :=
  (ls.filter (·.text.isLabel)).map (·.span)

theorem labelSpans_append (ls ls' : List LogicalLine) :
    labelSpans (ls ++ ls') = labelSpans ls ++ labelSpans ls' := by
  rw [labelSpans, List.filter_append, List.map_append, labelSpans, labelSpans]

theorem labelSpans_expansion (e : Expansion) :
    labelSpans e.lines = (e.texts.filter Text.isLabel).map fun _ => e.span := by
  rw [labelSpans, Expansion.lines, List.filter_map, List.map_map]
  rfl

end LogicalLine

/-- No two labels of a source stand in one place. -/
theorem LogicalSource.labelSpans_nodup {m : SourceMode} {content : Text} {source : LogicalSource}
    (h : read m content = .ok source) : (LogicalLine.labelSpans source.lines).Nodup := by
  obtain ⟨es, heq, hvalid, hordered⟩ := expansions_of_read h
  have hspans : LogicalLine.labelSpans source.lines =
      es.flatMap fun e => LogicalLine.labelSpans e.lines := by
    rw [heq, LogicalLine.labelSpans, List.filter_flatMap, List.map_flatMap]
    rfl
  rw [hspans, List.nodup_flatMap]
  constructor
  · -- a group has one label or none
    intro e he
    obtain ⟨text, hexpand⟩ := (hvalid e he).expand_eq
    have hlength := length_labels_of_expand hexpand
    rw [LogicalLine.labelSpans_expansion]
    rcases hlabels : e.texts.filter Text.isLabel with _ | ⟨label, rest⟩
    · exact List.nodup_nil
    · rw [hlabels, List.length_cons] at hlength
      have hrest : rest = [] := List.length_eq_zero_iff.1 (by omega)
      rw [hrest]
      exact List.nodup_singleton _
  · -- and two groups have different spans
    refine hordered.imp_of_mem ?_
    intro e e' he he' hlt span hspan hspan'
    simp only [LogicalLine.labelSpans_expansion] at hspan hspan'
    obtain ⟨-, -, rfl⟩ := List.mem_map.1 hspan
    obtain ⟨-, -, heq'⟩ := List.mem_map.1 hspan'
    have hle := (hvalid e he).inside.first_le_last
    rw [heq'] at hlt
    omega

end ScriptScan
