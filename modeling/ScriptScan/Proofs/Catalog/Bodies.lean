import ScriptScan.Proofs.Catalog.Run
import ScriptScan.Proofs.Func.Span
import ScriptScan.Proofs.Outline.Sections
import ScriptScan.Proofs.Source.Spans

/-!
# The bodies of a script

The functions of a script hold the lines of its source, each in the function that it stands in. Two
facts meet here. The outline gives every line to the right table (`Script.ofSource_layout`), but a
table sorts its lines by their spans; and the reader gives lines whose spans never go backwards
(`SourceMode.run_ordered`), so that sorting changes nothing.

* `Script.MadeOf` says what it is to hold the given lines.
* `Catalog.scanSource_madeOf` is the conclusion for every script that a scan adds.
-/

namespace ScriptScan

/-! ## Lines in order -/

/-- The lines of a source come in the order of their spans. -/
theorem LogicalSource.comesAt_of_read {m : SourceMode} {content : Text} {source : LogicalSource}
    (h : read m content = .ok source) :
    source.lines.Pairwise fun a b => LineTable.ComesAt a.span b := by
  rcases inside_of_read h with ⟨-, hinside⟩
  exact LogicalLine.pairwise_comesAt (ordered_of_read h) (fun l hl => (hinside l hl).file_eq)
    (fun l hl => (hinside l hl).first_le_last)

/-- What is true of the spans of lines is true of the spans of what they leave. -/
theorem LogicalLine.forall_content {p : Span → Prop} {ls : List LogicalLine}
    (h : ∀ l ∈ ls, p l.span) : ∀ l ∈ ls.filterMap content?, p l.span := by
  intro l hl
  rcases List.mem_filterMap.1 hl with ⟨l', hl', hcontent⟩
  rw [span_of_content? hcontent]
  exact h l' hl'

/-- What is true of lines one behind the other, and is told by their spans, is true of what they
leave. -/
theorem LogicalLine.pairwise_content {R : LogicalLine → LogicalLine → Prop}
    (hR : ∀ {a b a' b'}, a'.span = a.span → b'.span = b.span → R a b → R a' b')
    {ls : List LogicalLine} (h : ls.Pairwise R) : (ls.filterMap content?).Pairwise R := by
  refine h.filterMap _ ?_
  intro a b hab a' ha b' hb
  exact hR (span_of_content? ha) (span_of_content? hb) hab

/-- What lines leave comes in order if the lines do. -/
theorem LogicalLine.ordered_content {ls : List LogicalLine}
    (h : ls.Pairwise fun a b => LineTable.ComesAt a.span b) :
    (ls.filterMap content?).Pairwise fun a b => LineTable.ComesAt a.span b := by
  refine pairwise_content ?_ h
  intro a b a' b' ha hb hab
  rwa [LineTable.ComesAt, ha, hb]

/-- What a line leaves keeps the order of the lines. -/
theorem LogicalLine.precedes_content {ls : List LogicalLine} (h : ls.Pairwise Precedes) :
    (ls.filterMap content?).Pairwise Precedes := by
  refine pairwise_content ?_ h
  intro a b a' b' ha hb hab
  rwa [Precedes, ha, hb]

/-- The body of a function that was given a part of the lines of a source is what these lines leave,
and the span of the function covers it. -/
theorem FuncDecl.covers_of_sublist {f : FuncDecl} {ls lines : List LogicalLine} {file : Text}
    {lo hi : Nat} (htable : f.table = .ofLines (ls.filterMap LogicalLine.content?))
    (hsub : ls.Sublist lines) (hinside : ∀ l ∈ lines, l.span.Inside file lo hi)
    (hordered : lines.Pairwise LogicalLine.Precedes) :
    f.body = ls.filterMap LogicalLine.content? ∧ f.Covers := by
  have hplaced : ∀ l ∈ ls.filterMap LogicalLine.content?, l.span.Inside file lo hi :=
    LogicalLine.forall_content fun l hl => hinside l (hsub.subset hl)
  exact covers_of_ordered htable (LogicalLine.precedes_content (hordered.sublist hsub))
    (fun l hl => (hplaced l hl).file_eq) (fun l hl => (hplaced l hl).first_le_last)

namespace Layout

variable {lay : Layout}

/-- The line that begins a function and the lines inside stand in order. -/
theorem opening_sublist {sec : FuncSection} (h : sec ∈ lay.sections) :
    (sec.opening :: sec.inner).Sublist lay.lines := by
  have hsec : (sec.opening :: sec.inner).Sublist sec.lines :=
    (List.sublist_append_right ..).trans (List.sublist_append_left ..)
  have hall : sec.lines.Sublist (lay.sections.flatMap FuncSection.lines) := by
    rcases List.append_of_mem h with ⟨l₁, l₂, hl⟩
    rw [hl, List.flatMap_append, List.flatMap_cons]
    exact (List.sublist_append_left ..).trans (List.sublist_append_right ..)
  exact (hsec.trans hall).trans (List.sublist_append_left ..)

theorem inner_sublist {sec : FuncSection} (h : sec ∈ lay.sections) :
    sec.inner.Sublist lay.lines :=
  (List.sublist_cons_self ..).trans (opening_sublist h)

theorem outside_sublist (lay : Layout) : lay.outside.Sublist lay.lines := by
  have hbefore : ∀ secs : List FuncSection,
      (secs.flatMap FuncSection.before).Sublist (secs.flatMap FuncSection.lines) := by
    intro secs
    induction secs with
    | nil => exact .slnil
    | cons sec secs ih =>
      rw [List.flatMap_cons, List.flatMap_cons]
      refine List.Sublist.append ?_ ih
      rw [FuncSection.lines, List.append_assoc]
      exact List.sublist_append_left ..
  exact (hbefore lay.sections).append (List.Sublist.refl _)

/-- A function that is made of a section is written as the lines of the section. -/
theorem writtenAs {file : Text} {lo hi : Nat}
    (hinside : ∀ l ∈ lay.lines, l.span.Inside file lo hi)
    (hordered : lay.lines.Pairwise LogicalLine.Precedes) {sec : FuncSection}
    (hsec : sec ∈ lay.sections) {f : FuncDecl} (hat : f.declaredAt = sec.opening.span)
    (htable : f.table = .ofLines sec.body) : f.WrittenAs sec.opening sec.body := by
  have hsub := opening_sublist hsec
  obtain ⟨hopening, hinner⟩ := List.pairwise_cons.1 (hordered.sublist hsub)
  have hplaced : ∀ l ∈ sec.opening :: sec.body, l.span.Inside file lo hi :=
    List.forall_mem_cons.2 ⟨hinside _ (hsub.subset List.mem_cons_self),
      LogicalLine.forall_content fun l hl => hinside l (hsub.subset (List.mem_cons_of_mem _ hl))⟩
  refine ⟨hat, htable, ?_, fun l hl => (hplaced l hl).first_le_last, ?_⟩
  · intro l hl
    rw [(hplaced l hl).file_eq, (hplaced sec.opening List.mem_cons_self).file_eq]
  · refine List.pairwise_cons.2 ⟨?_, LogicalLine.precedes_content hinner⟩
    exact LogicalLine.forall_content
      (p := fun span => sec.opening.span = span ∨ sec.opening.span.last < span.first) hopening

end Layout

/-- The functions of a script are written as their sections. -/
theorem Script.ofSource_written {ctx : ScanContext} {path : Path} {m : SourceMode} {content : Text}
    {source : LogicalSource} {s : Script} (hread : LogicalSource.read m content = .ok source)
    (h : ofSource ctx path source = .ok s) :
    ∃ (lay : Layout) (decls : List FuncDecl) (main : FuncDecl),
      lay.lines = source.lines ∧ lay.WellFormed ∧ s.Holds path decls main ∧
      List.Forall₂ (fun f sec => f.WrittenAs sec.opening sec.body) decls lay.sections ∧
      main.table = .ofLines lay.mainBody := by
  rcases ofSource_layout h with ⟨lay, decls, main, hlines, hwf, hholds, hdecls, hmain⟩
  rcases LogicalSource.inside_of_read hread with ⟨-, hinside⟩
  have hordered := LogicalSource.ordered_of_read hread
  rw [← hlines] at hinside hordered
  refine ⟨lay, decls, main, hlines, hwf, hholds, ?_, hmain⟩
  rw [← List.forall₂_eq_eq_eq, List.forall₂_map_left_iff, List.forall₂_map_right_iff] at hdecls
  refine List.forall₂_iff_zip.2 ⟨hdecls.length_eq, ?_⟩
  intro f sec hzip
  have heq := List.forall₂_zip hdecls hzip
  simp only [Prod.mk.injEq] at heq
  exact Layout.writtenAs hinside hordered (List.of_mem_zip hzip).2 heq.2.1 heq.2.2

/-! ## Scripts made of lines -/

/-- Whether a script is made of some lines, and of nothing else: the lines have a layout, each of
its sections makes one function with the lines inside, and the main function has the lines outside
of all functions. Lines stay in order, in full and at their own places. -/
def Script.MadeOf (s : Script) (path : Path) (lines : List LogicalLine) : Prop :=
  ∃ (lay : Layout) (decls : List FuncDecl) (main : FuncDecl),
    lay.lines = lines ∧ lay.WellFormed ∧ s.Holds path decls main ∧
    decls.map (fun f => (f.name, f.declaredAt, f.body)) =
      lay.sections.map (fun sec => (sec.header.name, sec.opening.span, sec.body)) ∧
    main.body = lay.mainBody

theorem Script.ofSource_madeOf {ctx : ScanContext} {path : Path} {source : LogicalSource}
    {s : Script} (h : ofSource ctx path source = .ok s)
    (hordered : source.lines.Pairwise fun a b => LineTable.ComesAt a.span b) :
    s.MadeOf path source.lines := by
  rcases ofSource_layout h with ⟨lay, decls, main, hlines, hwf, hholds, hdecls, hmain⟩
  rw [← hlines] at hordered
  have hsec : ∀ sec ∈ lay.sections, (LineTable.ofLines sec.body).lines = sec.body := by
    intro sec hmem
    have hinner := hordered.sublist (Layout.inner_sublist hmem)
    exact LineTable.lines_ofLines (LogicalLine.ordered_content hinner)
  have houtside : (LineTable.ofLines lay.mainBody).lines = lay.mainBody :=
    LineTable.lines_ofLines (LogicalLine.ordered_content (hordered.sublist lay.outside_sublist))
  refine ⟨lay, decls, main, hlines, hwf, hholds, ?_, ?_⟩
  · have hbodies := congrArg (List.map fun (name, span, table) => (name, span, table.lines)) hdecls
    rw [List.map_map, List.map_map] at hbodies
    refine hbodies.trans (List.map_congr_left ?_)
    intro sec hmem
    simp [hsec sec hmem]
  · rw [FuncDecl.body, hmain]
    exact houtside

namespace Catalog

/-- A script that a scan adds to the catalog is made of the logical lines of its source. -/
theorem scanSource_madeOf {c : Catalog} {setup : Setup} {fs : FileSystem} {source : Source}
    {s : Script} (hnew : c.find? (fs.canonical source.path) = none)
    (hscan : (c.scanSource setup fs source).2 = .ok s) :
    ∃ text, LogicalSource.read ⟨(fs.canonical source.path).text, setup.options.strict⟩
        source.content = .ok text ∧
      s.MadeOf (fs.canonical source.path) text.lines := by
  rcases exists_source_of_read (read_of_scanSource hnew hscan) with ⟨text, htext, hscript⟩
  exact ⟨text, htext, Script.ofSource_madeOf hscript (LogicalSource.comesAt_of_read htext)⟩

/-- A source that has lines before, in and behind a function, and a label. -/
theorem scanSource_madeOf_sample :
    ∃ s text,
      ((initial []).scanSource { options := { includeDir := ⟨['/']⟩ } } (.empty [])
        ⟨⟨"http://a/b.au3".toList⟩, "x\nfunc f()\nhere:\ny\nendfunc\nz".toList⟩).2 = .ok s ∧
      LogicalSource.read ⟨"http://a/b.au3".toList, false⟩
        "x\nfunc f()\nhere:\ny\nendfunc\nz".toList = .ok text ∧
      s.MadeOf ⟨"http://a/b.au3".toList⟩ text.lines := by
  have hkey : (FileSystem.empty []).canonical ⟨"http://a/b.au3".toList⟩ =
      ⟨"http://a/b.au3".toList⟩ := by
    decide +kernel
  have hscan : ∃ s, ((initial []).scanSource { options := { includeDir := ⟨['/']⟩ } } (.empty [])
      ⟨⟨"http://a/b.au3".toList⟩, "x\nfunc f()\nhere:\ny\nendfunc\nz".toList⟩).2 = .ok s :=
    exists_eq_ok_of_isOk (by decide +kernel)
  rcases hscan with ⟨s, hs⟩
  rcases scanSource_madeOf rfl hs with ⟨text, htext, hmade⟩
  rw [hkey] at htext hmade
  exact ⟨s, text, hs, htext, hmade⟩

end Catalog

end ScriptScan
