import ScriptScan.Proofs.Outline.Each
import ScriptScan.Proofs.Outline.Sections
import ScriptScan.Proofs.Text.LetterCase

/-!
# Labels and their places in a body

A label goes into two tables of the current function: under its key into the labels, and as an empty
line into the body. Ordinary lines go into the body too, but they are never empty. So the empty lines
of a body are the places of the labels, one for each label line that the function was given.

* `FuncDecl.labels_fill` — the labels that some lines add to a function.
* `FuncDecl.Labelling` is what a function has from the labels among its lines, and
  `Script.LabelledFrom` says that of all functions of a script.
-/

namespace ScriptScan

/-! ## Lines -/

namespace LogicalLine

/-- The name of a label as it is written, and the place of the label, if the line is one. -/
def label? (l : LogicalLine) : Option (Text × Span) :=
  match LineRule.classify l.text with
  | some (.label name) => some (name, l.span)
  | _ => none

/-- The labels among some lines. -/
def labels (ls : List LogicalLine) : List (Text × Span) :=
  ls.filterMap label?

/-- What a line leaves in a body is empty only if the line is a label. -/
theorem filter_content?_toList {l : LogicalLine} (h : l.text ≠ []) :
    l.content?.toList.filter (·.text.isEmpty) =
      l.label?.toList.map fun label => ⟨[], label.2⟩ := by
  have htext : l.text.isEmpty = false := by simpa using h
  cases hc : LineRule.classify l.text with
  | none => simp [content?, label?, hc, htext]
  | some form => cases form <;> simp [content?, label?, hc]

/-- The empty lines that some lines leave in a body stand at the places of the labels. -/
theorem placeholders_eq {ls : List LogicalLine} (h : ∀ l ∈ ls, l.text ≠ []) :
    (ls.filterMap content?).filter (·.text.isEmpty) =
      (labels ls).map fun label => ⟨[], label.2⟩ := by
  induction ls with
  | nil => rfl
  | cons l ls ih =>
    rcases List.forall_mem_cons.1 h with ⟨hl, hls⟩
    have hcontent : (l :: ls).filterMap content? = l.content?.toList ++ ls.filterMap content? := by
      cases hc : l.content? <;> simp [hc]
    have hlabels : labels (l :: ls) = l.label?.toList ++ labels ls := by
      rw [labels]
      cases hc : l.label? <;> simp [hc, labels]
    rw [hcontent, hlabels, List.filter_append, List.map_append, filter_content?_toList hl, ih hls]

end LogicalLine

/-! ## Functions -/

namespace FuncDecl

variable {f : FuncDecl} {path : Path} {ls : List LogicalLine}

theorem labels_take (f : FuncDecl) (l : LogicalLine) :
    (f.take l).labels =
      f.labels ++ l.label?.toList.map fun label => ⟨f.script, f.name.key, label.1.key, label.2⟩ := by
  cases hc : LineRule.classify l.text with
  | none => simp [take, LogicalLine.label?, hc, addLine]
  | some form => cases form <;> simp [take, LogicalLine.label?, hc, addLabel, addLine]

/-- Each label among the lines that are given to a function becomes a label of the function. -/
theorem labels_fill (f : FuncDecl) (ls : List LogicalLine) :
    (f.fill ls).labels = f.labels ++ (LogicalLine.labels ls).map fun label =>
      ⟨f.script, f.name.key, label.1.key, label.2⟩ := by
  induction ls generalizing f with
  | nil => simp [fill, LogicalLine.labels]
  | cons l ls ih =>
    have hbare := bare_take f l
    have hname : (f.take l).name = f.name := by rw [← bare_name, hbare, bare_name]
    have hscript : (f.take l).script = f.script := by rw [← bare_script, hbare, bare_script]
    rw [fill, List.foldl_cons, ← fill, ih, labels_take, hname, hscript, LogicalLine.labels]
    cases hc : l.label? <;> simp [hc, LogicalLine.labels]

/-- No function has two labels with one key. -/
theorem kept_labelsApart (ctx : ScanContext) (path : Path) :
    Kept ctx path fun _ f => f.labels.Pairwise fun a b => a.name ≠ b.name where
  main := .nil
  begins _ _ _ _ _ _ _ := .nil
  passes _ _ _ h := h
  body _ _ _ _ h := h
  label _ l f name _ _ hnew h := by
    have hfree : ∀ a ∈ f.labels, a.name ≠ name.key := by
      simpa [label?] using hnew
    refine List.pairwise_append.2 ⟨h, List.pairwise_singleton _ _, ?_⟩
    intro a ha b hb
    rw [List.mem_singleton.1 hb]
    exact hfree a ha

/-- A function with one label for each key finds each of its labels by every spelling of the name, and
nothing else. -/
theorem label?_eq_some_iff (h : f.labels.Pairwise fun a b => a.name ≠ b.name) {name : Text}
    {label : Label} : f.label? name = some label ↔ label ∈ f.labels ∧ label.name = name.key := by
  constructor
  · intro hfound
    have hname := List.find?_some hfound
    exact ⟨List.mem_of_find?_eq_some hfound, by simpa using hname⟩
  · rintro ⟨hmem, hname⟩
    rcases List.append_of_mem hmem with ⟨before, after, heq⟩
    rw [heq] at h
    -- no label before it has the key
    have hbefore : ∀ a ∈ before, a.name ≠ name.key := by
      intro a ha
      rw [← hname]
      exact (List.pairwise_append.1 h).2.2 a ha label List.mem_cons_self
    rw [label?, heq, List.find?_append, List.find?_eq_none.2 (by simpa using hbefore)]
    simp [hname]

/-- What a function of a script has from the labels among its lines: one label for each of them, which
names the script, the function and the line by key and place; one empty line in the body for each of
them, and no others; and names that differ in more than letter case, so that each label is found by
every spelling of its name. -/
structure Labelling (path : Path) (f : FuncDecl) (ls : List LogicalLine) : Prop where
  labels_eq : f.labels = (LogicalLine.labels ls).map fun label =>
    ⟨path, f.name.key, label.1.key, label.2⟩
  placeholders : f.body.filter (·.text.isEmpty) = f.labels.map fun label => ⟨[], label.span⟩
  names_apart : (LogicalLine.labels ls).Pairwise fun a b =>
    a.1.key ≠ b.1.key ∧ Text.sameIgnoringCase a.1 b.1 = false
  found_iff : ∀ name label, f.label? name = some label ↔
    label ∈ f.labels ∧ label.name = name.key

/-- What the lines of a function make of a function without lines. -/
theorem labelling_of_fill {f₀ : FuncDecl} (hf : f = f₀.fill ls) (hlabels : f₀.labels = [])
    (hscript : f₀.script = path) (hbody : f.body = ls.filterMap LogicalLine.content?)
    (htexts : ∀ l ∈ ls, l.text ≠ []) (hnames : f.labels.Pairwise fun a b => a.name ≠ b.name) :
    f.Labelling path ls := by
  have hname : f.name = f₀.name := by
    rw [hf, ← bare_name, bare_fill, bare_name]
  have heq : f.labels = (LogicalLine.labels ls).map fun label =>
      ⟨path, f.name.key, label.1.key, label.2⟩ := by
    rw [hname, hf, labels_fill, hlabels, hscript, List.nil_append]
  refine ⟨heq, ?_, ?_, fun _ _ => label?_eq_some_iff hnames⟩
  · rw [hbody, LogicalLine.placeholders_eq htexts, heq, List.map_map]
    rfl
  · rw [heq, List.pairwise_map] at hnames
    refine hnames.imp ?_
    intro a b hne
    refine ⟨hne, ?_⟩
    rw [Bool.eq_false_iff]
    intro hsame
    exact hne (Text.key_eq_of_sameIgnoringCase hsame)

end FuncDecl

end ScriptScan
