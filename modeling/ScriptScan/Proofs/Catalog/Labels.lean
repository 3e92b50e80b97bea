import ScriptScan.Proofs.Catalog.Bodies
import ScriptScan.Proofs.Catalog.Read
import ScriptScan.Proofs.Outline.Labels
import ScriptScan.Proofs.Source.Blocks

/-!
# Labels of scripts

Each label line of a source belongs to the function that it stands in, and to no other one. So the
labels of a script are told apart by the script, the function and the name, and what one function
finds under a name no other function finds.

* `Script.LabelledFrom` says which labels the functions of a script have from the lines of a source.
* `Catalog.labels_placed` is the conclusion.
-/

namespace ScriptScan

/-! ## Scripts -/

/-- Whether the functions of a script have their labels from some lines: the lines have a layout, each
of its sections makes one function with the labels inside, and the main function has the labels
outside of all functions. -/
def Script.LabelledFrom (s : Script) (path : Path) (lines : List LogicalLine) : Prop :=
  ∃ (lay : Layout) (decls : List FuncDecl) (main : FuncDecl),
    lay.lines = lines ∧ lay.WellFormed ∧ s.Holds path decls main ∧
    List.Forall₂ (fun f sec => f.name = sec.header.name ∧ f.declaredAt = sec.opening.span ∧
      f.Labelling path sec.inner) decls lay.sections ∧
    main.Labelling path lay.outside

theorem Script.labelledFrom_of_ofSource {ctx : ScanContext} {path : Path} {m : SourceMode}
    {content : Text} {source : LogicalSource} {s : Script}
    (hread : LogicalSource.read m content = .ok source)
    (h : ofSource ctx path source = .ok s) : s.LabelledFrom path source.lines := by
  rcases ofSource_filled h with ⟨lay, decls, hlines, hwf, hholds, hmakes⟩
  have hapart := forall_declared (FuncDecl.kept_labelsApart ctx path) h
  rcases LogicalSource.inside_of_read hread with ⟨-, hinside⟩
  have hordered := LogicalSource.ordered_of_read hread
  have hsettled := LogicalSource.isSettled_of_read hread
  rw [← hlines] at hinside hordered hsettled
  -- a function that was given a part of the lines
  have hpart : ∀ {f₀ : FuncDecl} {ls : List LogicalLine}, f₀.labels = [] → f₀.script = path →
      f₀.table = {} → ls.Sublist lay.lines → .declared (f₀.fill ls) ∈ s.functions.funcs →
      (f₀.fill ls).Labelling path ls := by
    intro f₀ ls hlabels hscript htable hsub hmem
    have hbody : (f₀.fill ls).table = .ofLines (ls.filterMap LogicalLine.content?) := by
      rw [FuncDecl.table_fill, htable, LineTable.ofLines]
    refine FuncDecl.labelling_of_fill rfl hlabels hscript
      (FuncDecl.covers_of_sublist hbody hsub hinside hordered).1 ?_ (hapart _ hmem)
    intro l hl
    exact (hsettled l (hsub.subset hl)).ne_nil
  refine ⟨lay, decls, _, hlines, hwf, hholds, ?_, ?_⟩
  · refine List.forall₂_iff_zip.2 ⟨hmakes.length_eq, ?_⟩
    intro f sec hzip
    rcases List.of_mem_zip hzip with ⟨hf, hsec⟩
    rcases List.forall₂_zip hmakes hzip with ⟨params, rfl⟩
    have hbare := FuncDecl.bare_fill (.ofHeader sec.header path sec.opening.span params) sec.inner
    refine ⟨congrArg FuncDecl.name hbare, congrArg FuncDecl.declaredAt hbare,
      hpart rfl rfl rfl (Layout.inner_sublist hsec) ?_⟩
    rw [hholds.funcs_eq]
    exact List.mem_map_of_mem (List.mem_append_left _ hf)
  · refine hpart rfl rfl rfl lay.outside_sublist ?_
    rw [hholds.funcs_eq]
    simp

namespace Script.LabelledFrom

variable {s : Script} {path : Path} {lines : List LogicalLine}

theorem of_unloaded (h : s.unloaded.LabelledFrom path lines) : s.LabelledFrom path lines := by
  rcases h with ⟨lay, decls, main, hlines, hwf, hholds, hdecls, hmain⟩
  exact ⟨lay, decls, main, hlines, hwf, Catalog.holds_of_unloaded hholds, hdecls, hmain⟩

/-- Each function has its labels from some of the lines. -/
theorem exists_labelling (h : s.LabelledFrom path lines) {f : FuncDecl}
    (hf : .declared f ∈ s.functions.funcs) : ∃ ls, f.Labelling path ls := by
  rcases h with ⟨lay, decls, main, -, -, hholds, hdecls, hmain⟩
  rw [hholds.funcs_eq] at hf
  rcases List.mem_map.1 hf with ⟨f', hf', heq⟩
  cases heq
  rcases List.mem_append.1 hf' with hdecl | hmain'
  · rcases FuncSection.exists_of_mem hdecls hdecl with ⟨sec, -, -, -, hlabelling⟩
    exact ⟨_, hlabelling⟩
  · rw [List.mem_singleton.1 hmain']
    exact ⟨_, hmain⟩

end Script.LabelledFrom

/-- A label names the script and the function that have it. -/
theorem FuncDecl.Labelling.names {path : Path} {f : FuncDecl} {ls : List LogicalLine}
    (h : f.Labelling path ls) {label : Label} (hlabel : label ∈ f.labels) :
    label.script = path ∧ label.func = f.name.key := by
  rw [h.labels_eq] at hlabel
  rcases List.mem_map.1 hlabel with ⟨written, -, rfl⟩
  exact ⟨rfl, rfl⟩

/-- Functions of a script with one key are one function. -/
theorem Script.Holds.eq_of_key {s : Script} {path : Path} {decls : List FuncDecl} {main : FuncDecl}
    (h : s.Holds path decls main) {f f' : FuncDecl} (hf : .declared f ∈ s.functions.funcs)
    (hf' : .declared f' ∈ s.functions.funcs) (hkey : f.name.key = f'.name.key) : f = f' := by
  have hkeys := h.keys_nodup
  rw [h.functions_eq, List.map_map] at hkeys
  rw [h.funcs_eq] at hf hf'
  rcases List.mem_map.1 hf with ⟨g, hg, heq⟩
  rcases List.mem_map.1 hf' with ⟨g', hg', heq'⟩
  cases heq
  cases heq'
  exact List.inj_on_of_nodup_map hkeys hg hg' hkey

/-! ## Scans -/

namespace Catalog

variable {hostFuncs : List HostFunc} {c : Catalog}

theorem Reachable.labelledFrom (h : Reachable hostFuncs c) {e : Path × Script}
    (he : e ∈ c.scripts) :
    ∃ m content text, LogicalSource.read m content = .ok text ∧
      e.2.LabelledFrom e.1 text.lines := by
  rcases h.isRead e he with ⟨d, setup, key, content, hread⟩
  rcases exists_source_of_read hread with ⟨text, htext, hscript⟩
  have hlabelled := (Script.labelledFrom_of_ofSource htext hscript).of_unloaded
  have hkey : e.1 = key := by
    rcases hlabelled with ⟨lay, decls, main, -, -, hholds, -⟩
    exact (h.path_eq he).symm.trans hholds.path_eq
  exact ⟨_, content, text, htext, hkey ▸ hlabelled⟩

/-- A label is found by the one function that it belongs to. -/
theorem Reachable.label_owner (h : Reachable hostFuncs c) {e e' : Path × Script}
    (he : e ∈ c.scripts) (he' : e' ∈ c.scripts) {f f' : FuncDecl}
    (hf : .declared f ∈ e.2.functions.funcs) (hf' : .declared f' ∈ e'.2.functions.funcs)
    {label label' : Label} (hlabel : label ∈ f.labels) {name : Text}
    (hfound : f'.label? name = some label') (hsame : label.same label' = true) :
    e = e' ∧ f = f' := by
  rcases h.labelledFrom he with ⟨_, _, text, -, hlabelled⟩
  rcases h.labelledFrom he' with ⟨_, _, text', -, hlabelled'⟩
  rcases hlabelled.exists_labelling hf with ⟨ls, hlabelling⟩
  rcases hlabelled'.exists_labelling hf' with ⟨ls', hlabelling'⟩
  have hlabel' : label' ∈ f'.labels := ((hlabelling'.found_iff name label').1 hfound).1
  rcases hlabelling.names hlabel with ⟨hscript, hfunc⟩
  rcases hlabelling'.names hlabel' with ⟨hscript', hfunc'⟩
  simp only [Label.same, Bool.and_eq_true, beq_iff_eq, hscript, hscript', hfunc, hfunc'] at hsame
  rcases hsame with ⟨⟨hpath, hkey⟩, -⟩
  obtain rfl := h.eq_of_same he he' hpath
  rcases hlabelled with ⟨lay, decls, main, -, -, hholds, -⟩
  exact ⟨rfl, hholds.eq_of_key hf hf' hkey⟩

/-- The labels of the functions of a script are those among the lines of its source: every function
has one label for each label line that stands in it, an empty line in the body for each label, at its
place, and no other empty lines; its labels have different names, and it finds each of them by every
spelling of the name. And in every catalog that a host can come to, a function finds no label that is
the same as one of another function. -/
theorem labels_placed :
    (∀ (c : Catalog) setup fs source s, c.find? (fs.canonical source.path) = none →
      (c.scanSource setup fs source).2 = .ok s →
        ∃ text, LogicalSource.read ⟨(fs.canonical source.path).text, setup.options.strict⟩
            source.content = .ok text ∧
          s.LabelledFrom (fs.canonical source.path) text.lines) ∧
      ∀ hostFuncs c, Reachable hostFuncs c → ∀ e ∈ c.scripts,
        (∃ m content text, LogicalSource.read m content = .ok text ∧
          e.2.LabelledFrom e.1 text.lines) ∧
        ∀ f, .declared f ∈ e.2.functions.funcs → ∀ label ∈ f.labels,
          ∀ e' ∈ c.scripts, ∀ f', .declared f' ∈ e'.2.functions.funcs → ∀ name label',
            f'.label? name = some label' → label.same label' = true → e = e' ∧ f = f' := by
  constructor
  · intro c setup fs source s hnew hscan
    rcases exists_source_of_read (read_of_scanSource hnew hscan) with ⟨text, htext, hscript⟩
    exact ⟨text, htext, Script.labelledFrom_of_ofSource htext hscript⟩
  · intro hostFuncs c hreach e he
    refine ⟨hreach.labelledFrom he, ?_⟩
    intro f hf label hlabel e' he' f' hf' name label' hfound hsame
    exact hreach.label_owner he he' hf hf' hlabel hfound hsame

/-- A call that scans a script with labels in a function and outside, one of them under one name in
both, and one in a one-line if. -/
def labelledCall : Call :=
  ⟨{ options := { includeDir := ⟨['/']⟩ } }, .empty [],
    .process ⟨⟨"http://a/b.au3".toList⟩,
      "here:\nfunc f()\nx\nif 1 then There:\nHERE:\nendfunc\ny".toList⟩⟩

/-- Only the function finds its label, in whatever letter case. -/
theorem labels_placed_sample :
    (∃ s text,
      ((initial []).scanSource labelledCall.setup (.empty [])
        ⟨⟨"http://a/b.au3".toList⟩,
          "here:\nfunc f()\nx\nif 1 then There:\nHERE:\nendfunc\ny".toList⟩).2 = .ok s ∧
      LogicalSource.read ⟨"http://a/b.au3".toList, false⟩
        "here:\nfunc f()\nx\nif 1 then There:\nHERE:\nendfunc\ny".toList = .ok text ∧
      s.LabelledFrom ⟨"http://a/b.au3".toList⟩ text.lines) ∧
    Reachable [] ((initial []).serve labelledCall).1 ∧
    ∃ e ∈ ((initial []).serve labelledCall).1.scripts,
      ∃ f, .declared f ∈ e.2.functions.funcs ∧ f.name = "f".toList ∧
        ∃ label ∈ f.labels, f.label? "here".toList = some label ∧
          ∀ f', .declared f' ∈ e.2.functions.funcs → ∀ name label',
            f'.label? name = some label' → label.same label' = true → f = f' := by
  have hreach : Reachable [] ((initial []).serve labelledCall).1 := .serve .initial labelledCall
  refine ⟨?_, hreach, ?_⟩
  · have hkey : (FileSystem.empty []).canonical ⟨"http://a/b.au3".toList⟩ =
        ⟨"http://a/b.au3".toList⟩ := by
      decide +kernel
    have hscan : ∃ s, ((initial []).scanSource labelledCall.setup (.empty [])
        ⟨⟨"http://a/b.au3".toList⟩,
          "here:\nfunc f()\nx\nif 1 then There:\nHERE:\nendfunc\ny".toList⟩).2 = .ok s :=
      exists_eq_ok_of_isOk (by decide +kernel)
    rcases hscan with ⟨s, hs⟩
    rcases labels_placed.1 _ _ _ _ _ rfl hs with ⟨text, htext, hlabelled⟩
    rw [hkey] at htext hlabelled
    exact ⟨s, text, hs, htext, hlabelled⟩
  · have hfound : ∃ e ∈ ((initial []).serve labelledCall).1.scripts,
        ∃ f ∈ e.2.functions.funcs.filterMap Func.decl?, f.name = "f".toList ∧
          ∃ label ∈ f.labels, f.label? "here".toList = some label := by
      decide +kernel
    rcases hfound with ⟨e, he, f, hf, hname, label, hlabel, hfound⟩
    rcases List.mem_filterMap.1 hf with ⟨g, hg, hdecl⟩
    cases g with
    | host g => cases hdecl
    | declared g =>
      cases hdecl
      refine ⟨e, he, f, hg, hname, label, hlabel, hfound, ?_⟩
      intro f' hf' name label' hfound' hsame
      exact ((labels_placed.2 [] _ hreach e he).2 f hg label hlabel e he f' hf' name label'
        hfound' hsame).2

end Catalog

end ScriptScan
