import ScriptScan.Proofs.Line.Continuation
import ScriptScan.Proofs.Source.Exchange
import ScriptScan.Proofs.Source.Portions

/-!
# Continued lines and the one line that they make

Some physical lines that ask to be continued, and a last one that does not, are read as the one line
that holds their pieces with a space between them. Comments and markers are looked for in each of
the lines, the legacy directives and the one-line forms only in what the lines make; where there are
no comments, and the first line is no marker, this comes to the same.

* `Text.joins_of_continued` — the whole that continued lines make.
* `LogicalSource.read_whole` — a source that is one line with the lines that continue it.
* `LogicalSource.read_continued` — continued lines and the one line are read as the same texts, and
  what they give stands at all of their physical lines.
-/

namespace ScriptScan

namespace Text

variable {l last : Text} {more : List Text}

/-! ## Continued lines -/

/-- Whether a physical line is to be continued. It has no comment, and in front of the white space
at its end it is some text, one more white-space character and an underscore. -/
structure IsContinued (l : Text) : Prop where
  no_comment : ';' ∉ l
  marked : ∃ text c, isBlankText text = false ∧ isBlank c = true ∧ l.trim = text ++ [c, '_']

/-- Whether a physical line ends what is continued. It has no comment, is not blank, and does not
ask to be continued. -/
structure IsLast (l : Text) : Prop where
  no_comment : ';' ∉ l
  not_blank : l.isBlankText = false
  complete : ¬l.trim.AsksForMore

/-- The piece of a line that is to be continued: without white space at its ends, and without the
white-space character and the underscore that ask for more. -/
def piece (l : Text) : Text :=
  l.trim.dropLast.dropLast

/-- The one line that holds the pieces of some lines and a last one, with a space between them. -/
def oneLine (ls : List Text) (last : Text) : Text :=
  [' '].intercalate (ls.map piece ++ [last.trimStart])

theorem oneLine_cons (l : Text) (ls : List Text) (last : Text) :
    oneLine (l :: ls) last = l.piece ++ ' ' :: oneLine ls last := by
  have hne : ls.map piece ++ [last.trimStart] ≠ [] := by simp
  rw [oneLine, List.map_cons, List.cons_append, List.intercalate_cons_of_ne_nil hne]
  simp [oneLine]

theorem piece_subset (l : Text) : l.piece ⊆ l := by
  intro c hc
  exact (trim_sublist l).subset (List.dropLast_subset _ (List.dropLast_subset _ hc))

theorem stripped_of_no_comment (h : ';' ∉ l) : l.stripped = l.trim :=
  stripComment_trimStart h

namespace IsContinued

/-- A continued line is its piece, white space and an underscore. The piece is not empty and begins
with text. -/
theorem exists_trim_eq (h : l.IsContinued) :
    ∃ c, isBlank c = true ∧ l.trim = l.piece ++ [c, '_'] ∧ l.piece ≠ [] ∧
      l.piece.trimStart = l.piece := by
  obtain ⟨text, c, htext, hc, htrim⟩ := h.marked
  have hpiece : l.piece = text := by
    rw [piece, htrim]
    simp
  have hne : text ≠ [] := by
    rintro rfl
    cases htext
  rw [hpiece]
  refine ⟨c, hc, htrim, hne, trimStart_eq_self_iff.2 ?_⟩
  intro d hd
  have hhead : l.trim.head? = some d := by
    rw [htrim, List.head?_append_of_ne_nil text hne, hd]
  exact (trim_eq_self_iff.1 (trim_trim l)).1 d hhead

theorem beforeContinuation?_eq (h : l.IsContinued) (u : Text) :
    beforeContinuation? (u ++ l.trim) = some (u ++ l.piece) := by
  obtain ⟨c, hc, htrim, -, -⟩ := h.exists_trim_eq
  rw [htrim, ← List.append_assoc]
  exact beforeContinuation?_concat hc (u ++ l.piece)

end IsContinued

/-! ## What they make -/

theorem isBlankText_oneLine (hlast : last.isBlankText = false) (ls : List Text) :
    isBlankText (oneLine ls last) = false := by
  induction ls with
  | nil =>
    obtain ⟨gap, hgap, heq⟩ := exists_trimStart last
    rw [heq, isBlankText_append, hgap, Bool.true_and] at hlast
    simpa [oneLine] using hlast
  | cons l ls ih =>
    rw [oneLine_cons, ← List.singleton_append, ← List.append_assoc, isBlankText_append, ih,
      Bool.and_false]

theorem trimEnd_oneLine_cons (hlast : last.isBlankText = false) (l : Text) (ls : List Text) :
    (oneLine (l :: ls) last).trimEnd = l.piece ++ ' ' :: (oneLine ls last).trimEnd := by
  have hassoc : oneLine (l :: ls) last = (l.piece ++ [' ']) ++ oneLine ls last := by
    rw [oneLine_cons, List.append_assoc, List.singleton_append]
  rw [hassoc, trimEnd_append_of_not_blank (isBlankText_oneLine hlast ls), List.append_assoc,
    List.singleton_append]

/-- What stands in the one line stands in one of the lines, or is the space between them. -/
theorem not_mem_oneLine {c : Char} (hc : c ≠ ' ') {ls : List Text} (hls : ∀ l ∈ ls, c ∉ l)
    (hlast : c ∉ last) : c ∉ oneLine ls last := by
  induction ls with
  | nil =>
    intro hmem
    have hstart : c ∈ last.trimStart := by simpa [oneLine] using hmem
    exact hlast ((List.dropWhile_suffix isBlank).subset hstart)
  | cons l ls ih =>
    rw [List.forall_mem_cons] at hls
    rw [oneLine_cons, List.mem_append, List.mem_cons, not_or, not_or]
    exact ⟨fun hmem => hls.1 (piece_subset l hmem), hc, ih hls.2⟩

/-- Continued lines make the one line of their pieces. The induction is on the lines behind the
first; `u` is what the lines before have made. -/
theorem joins_of_continued (hl : l.IsContinued) (hmore : ∀ l' ∈ more, l'.IsContinued)
    (hlast : last.IsLast) (u : Text) :
    Joins (u ++ l.trim) (more ++ [last]) (u ++ (oneLine (l :: more) last).trimEnd) := by
  rw [trimEnd_oneLine_cons hlast.not_blank, ← List.append_assoc]
  induction more generalizing u l with
  | nil =>
    have hrest : (oneLine [] last).trimEnd = last.stripped := by
      rw [stripped_of_no_comment hlast.no_comment]
      simp [oneLine, trim]
    rw [hrest]
    refine .continued (hl.beforeContinuation?_eq u) (.complete ?_)
    rw [beforeContinuation?_eq_none_iff, asksForMore_append_iff,
      stripped_of_no_comment hlast.no_comment]
    exact hlast.complete
  | cons l' more ih =>
    rw [List.forall_mem_cons] at hmore
    refine .continued (hl.beforeContinuation?_eq u) ?_
    have hrest := ih hmore.1 hmore.2 (u ++ l.piece ++ [' '])
    rw [trimEnd_oneLine_cons hlast.not_blank]
    rw [stripped_of_no_comment hmore.1.no_comment]
    simpa using hrest

section

variable (hl : l.IsContinued) (hmore : ∀ l' ∈ more, l'.IsContinued) (hlast : last.IsLast)

include hl hmore hlast

theorem stripped_oneLine :
    (oneLine (l :: more) last).stripped = (oneLine (l :: more) last).trimEnd := by
  obtain ⟨c, -, -, hne, hstart⟩ := hl.exists_trim_eq
  have hcomment : ';' ∉ oneLine (l :: more) last := by
    refine not_mem_oneLine (by decide) (List.forall_mem_cons.2 ⟨hl.no_comment, ?_⟩)
      hlast.no_comment
    exact fun l' hl' => (hmore l' hl').no_comment
  -- the first piece begins with text, so there is nothing to cut off at the start
  have htrimStart : (oneLine (l :: more) last).trimStart = oneLine (l :: more) last := by
    rw [trimStart_eq_self_iff]
    intro d hd
    rw [oneLine_cons, List.head?_append_of_ne_nil _ hne] at hd
    exact trimStart_eq_self_iff.1 hstart d hd
  rw [stripped_of_no_comment hcomment, trim, htrimStart]

/-- The one line is no marker if the first of the lines is none. -/
theorem ofPhysical?_oneLine (hmarker : Marker.ofPhysical? l = none) :
    Marker.ofPhysical? (oneLine (l :: more) last) = none := by
  obtain ⟨c, hc, htrim, hne, -⟩ := hl.exists_trim_eq
  have hspace : isBlank ' ' = true := by decide
  -- both are the first piece, white space and something behind it
  have hfirst : l.stripped = l.piece ++ c :: ['_'] := by
    rw [stripped_of_no_comment hl.no_comment]
    exact htrim
  have hline : (oneLine (l :: more) last).stripped =
      l.piece ++ ' ' :: (oneLine more last).trimEnd := by
    rw [stripped_oneLine hl hmore hlast, trimEnd_oneLine_cons hlast.not_blank]
  rw [stripped] at hfirst hline
  rw [Marker.ofPhysical?, hfirst, Marker.read?_append_blank hc hne] at hmarker
  rw [Marker.ofPhysical?, hline, Marker.read?_append_blank hspace hne]
  exact hmarker

end

end Text

/-! ## Sources -/

namespace SourceMode

variable {m : SourceMode} {l whole : Text} {more : List Text}

/-- A line says, with the lines that continue it, what the whole that they make says. -/
theorem says_whole (h : Marker.ofPhysical? l = none) (hjoins : l.stripped.Joins more whole) :
    m.Says (l :: more) (expand m.strict (modernize whole)) := by
  have hrun := run_whole (m := m) (n := 1) h hjoins
  cases hexpand : expand m.strict (modernize whole) with
  | ok texts =>
    refine ⟨texts.map (⟨·, ⟨m.file, 1, 1 + more.length⟩⟩), ?_, ?_⟩
    · simpa [Reads, Reading.ofText, hjoins.complete_whole, hexpand, Reading.place] using hrun
    · rw [List.map_map]
      exact List.map_id _
  | error cause =>
    refine ⟨⟨m.file, 1, 1 + more.length⟩, ?_⟩
    simpa [Reading.ofText, hjoins.complete_whole, hexpand, Reading.place] using hrun

end SourceMode

namespace LogicalSource

variable {m : SourceMode} {p t l whole first last : Text} {more : List Text}
  {out : List LogicalLine}

/-- How a source is read that ends in a line and the lines that continue it: as what they make, at
the place of all of them. -/
theorem read_whole (hp : p.WholeLines) (hreads : m.Reads p.lines out) (ht : t.lines = l :: more)
    (h : Marker.ofPhysical? l = none) (hjoins : l.stripped.Joins more whole) :
    read m (p ++ t) =
      ((expand m.strict (modernize whole)).mapError
        (⟨·, ⟨m.file, p.lines.length + 1, p.lines.length + t.lines.length⟩⟩)).map fun texts =>
          ⟨out ++ texts.map
            (⟨·, ⟨m.file, p.lines.length + 1, p.lines.length + t.lines.length⟩⟩),
            p.lines.length + t.lines.length⟩ := by
  have hspan : (⟨m.file, 1 + p.lines.length, 1 + p.lines.length + more.length⟩ : Span) =
      ⟨m.file, p.lines.length + 1, p.lines.length + t.lines.length⟩ := by
    rw [ht, List.length_cons, Nat.add_comm 1, Nat.add_assoc _ 1, Nat.add_comm 1]
  have hrun := SourceMode.run_append m {} 1 p.lines t.lines
  rw [hreads, ht] at hrun
  dsimp only at hrun
  rw [SourceMode.run_whole h hjoins, hspan, ← ht, ← Text.lines_append hp] at hrun
  rw [read_eq, hrun, Text.lines_append hp, List.length_append]
  simp only [Reading.ofText, hjoins.complete_whole]
  cases expand m.strict (modernize whole) with
  | error cause => rfl
  | ok texts => rfl

/-- Lines that are continued are read, behind lines that read on their own, as the one line of their
pieces; what they give, and what is wrong with it, stands at all of them. -/
theorem read_continued (hp : p.WholeLines) (hreads : m.Reads p.lines out)
    (ht : t.lines = first :: (more ++ [last])) (hmarker : Marker.ofPhysical? first = none)
    (hfirst : first.IsContinued) (hmore : ∀ l ∈ more, l.IsContinued) (hlast : last.IsLast) :
    readTexts m (p ++ t) = readTexts m (p ++ Text.oneLine (first :: more) last) ∧
      (∀ source, read m (p ++ t) = .ok source →
        ∃ texts : List Text, source.lines = out ++ texts.map
          (⟨·, ⟨m.file, p.lines.length + 1, p.lines.length + t.lines.length⟩⟩)) ∧
      ∀ f, read m (p ++ t) = .error f →
        f.span = ⟨m.file, p.lines.length + 1, p.lines.length + t.lines.length⟩ := by
  have hjoins := Text.joins_of_continued hfirst hmore hlast []
  rw [List.nil_append, List.nil_append, ← Text.stripped_of_no_comment hfirst.no_comment] at hjoins
  have hstripped := Text.stripped_oneLine hfirst hmore hlast
  have hmarker' := Text.ofPhysical?_oneLine hfirst hmore hlast hmarker
  have hjoins' : (Text.oneLine (first :: more) last).stripped.Joins []
      (Text.oneLine (first :: more) last).trimEnd := by
    rw [hstripped]
    exact .complete hjoins.complete_whole
  have hline : (Text.oneLine (first :: more) last).lines = [Text.oneLine (first :: more) last] := by
    have hfeed : ∀ l ∈ t.lines, '\n' ∉ l := fun l hl => Text.feed_not_mem_of_mem_lines hl
    rw [ht, ← List.cons_append, List.forall_mem_append, List.forall_mem_singleton] at hfeed
    refine Text.lines_eq_singleton (Text.not_mem_oneLine (by decide) hfeed.1 hfeed.2) ?_
    intro hnil
    have hblank := Text.isBlankText_oneLine hlast.not_blank (first :: more)
    rw [hnil] at hblank
    cases hblank
  refine ⟨?_, ?_⟩
  · have hlines : (p ++ t).lines = p.lines ++ (first :: (more ++ [last]) ++ []) := by
      rw [Text.lines_append hp, ht, List.append_nil]
    have hlines' : (p ++ Text.oneLine (first :: more) last).lines =
        p.lines ++ ([Text.oneLine (first :: more) last] ++ []) := by
      rw [Text.lines_append hp, hline, List.append_nil]
    exact readTexts_congr hreads (SourceMode.says_whole hmarker hjoins)
      (SourceMode.says_whole hmarker' hjoins') hlines hlines'
  · rw [read_whole hp hreads ht hmarker hjoins]
    cases expand m.strict (modernize (Text.oneLine (first :: more) last).trimEnd) with
    | ok texts =>
      refine ⟨?_, nofun⟩
      rintro source ⟨⟩
      exact ⟨texts, rfl⟩
    | error cause =>
      refine ⟨nofun, ?_⟩
      rintro f ⟨⟩
      rfl

/-- Three lines behind a block comment, which are a one-line if when they are put together. -/
theorem read_continued_sample :
    readTexts ⟨"a.au3".toList, false⟩
        ("#cs\nx\n#ce\n".toList ++ "If $a _\n\tthen _\n  f() ".toList) =
      readTexts ⟨"a.au3".toList, false⟩ ("#cs\nx\n#ce\n".toList ++ "If $a then f() ".toList) ∧
    ∀ source, read ⟨"a.au3".toList, false⟩
        ("#cs\nx\n#ce\n".toList ++ "If $a _\n\tthen _\n  f() ".toList) = .ok source →
      ∃ texts : List Text, source.lines = texts.map (⟨·, ⟨"a.au3".toList, 4, 6⟩⟩) := by
  have hreads :
      SourceMode.Reads ⟨"a.au3".toList, false⟩ (Text.lines "#cs\nx\n#ce\n".toList) [] := by
    decide
  have hlines : Text.lines "If $a _\n\tthen _\n  f() ".toList =
      "If $a _".toList :: (["\tthen _".toList] ++ ["  f() ".toList]) := by
    decide
  have hfirst : Text.IsContinued "If $a _".toList := ⟨by decide, "If $a".toList, ' ', by decide⟩
  have hmore : Text.IsContinued "\tthen _".toList := ⟨by decide, "then".toList, ' ', by decide⟩
  have hlast : Text.IsLast "  f() ".toList := ⟨by decide, by decide, by decide⟩
  have hwhole : Text.WholeLines "#cs\nx\n#ce\n".toList := by decide
  have hmarker : Marker.ofPhysical? "If $a _".toList = none := by decide
  have h := read_continued hwhole hreads hlines hmarker hfirst (List.forall_mem_singleton.2 hmore)
    hlast
  exact ⟨h.1, h.2.1⟩

end LogicalSource

end ScriptScan
