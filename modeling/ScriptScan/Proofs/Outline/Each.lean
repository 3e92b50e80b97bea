import ScriptScan.Proofs.Outline.Functions
import ScriptScan.Proofs.Source.Expansions

/-!
# What holds of every function

A line does at most one thing to at most one function: it begins one, goes into its body, or gives
it a label. So what is to hold of every function of a script is looked at function by function
(`FuncDecl.Kept`), and never again along the run of the outline (`Outline.each_of_run`).

The labels of functions are the first use: `Script.labelSpans_sublist` says that they stand where
the labels of the source stand, in the same order.
-/

namespace ScriptScan

/-- What is true of the main function at first, and of every function when it begins, and stays true
of a function with the lines that have been read, whatever the next line does to it. -/
structure FuncDecl.Kept (ctx : ScanContext) (path : Path)
    (P : List LogicalLine → FuncDecl → Prop) : Prop where
  main : P [] (.main path)
  begins : ∀ pre (l : LogicalLine) hd params, LineRule.classify l.text = some (.func hd) →
    ctx.parseParams hd.params = .ok params → Param.check params = none →
    P (pre ++ [l]) (.ofHeader hd path l.span params)
  passes : ∀ pre (l : LogicalLine) f, P pre f → P (pre ++ [l]) f
  body : ∀ pre (l : LogicalLine) f, LineRule.classify l.text = none → P pre f →
    P (pre ++ [l]) (f.addLine l)
  label : ∀ pre (l : LogicalLine) f name, LineRule.classify l.text = some (.label name) →
    ctx.strict = false → f.label? name = none → P pre f → P (pre ++ [l]) (f.addLabel name l.span)

namespace Outline

variable {ctx : ScanContext} {path : Path} {o o' : Outline} {l : LogicalLine}
  {P Q : FuncDecl → Prop}

/-- Whether something holds of every function of an outline. -/
structure Each (P : FuncDecl → Prop) (o : Outline) : Prop where
  main : P o.main
  opened : ∀ f, o.open? = some f → P f
  closed : ∀ e ∈ o.closed, P e.2

theorem Each.imp (h : o.Each P) (himp : ∀ f, P f → Q f) : o.Each Q :=
  ⟨himp _ h.main, fun f hf => himp f (h.opened f hf), fun e he => himp e.2 (h.closed e he)⟩

theorem Each.current (h : o.Each P) : P o.current := by
  cases hopen : o.open? with
  | none =>
    rw [current_of_main hopen]
    exact h.main
  | some f =>
    rw [current_of_open hopen]
    exact h.opened f hopen

theorem Each.setCurrent (h : o.Each P) {g : FuncDecl} (hg : P g) : (o.setCurrent g).Each P := by
  cases hopen : o.open? with
  | none =>
    rw [setCurrent_of_main hopen]
    exact ⟨hg, h.opened, h.closed⟩
  | some f =>
    rw [setCurrent_of_open hopen]
    refine ⟨h.main, ?_, h.closed⟩
    intro f' hf'
    cases hf'
    exact hg

/-- A line keeps of every function what it keeps of each. -/
theorem Step.each {P : List LogicalLine → FuncDecl → Prop} {pre : List LogicalLine}
    (hs : Step ctx o l o') (hkept : FuncDecl.Kept ctx path P) (hpath : o.path = path)
    (h : o.Each (P pre)) : o'.Each (P (pre ++ [l])) := by
  have hpasses : o.Each (P (pre ++ [l])) := h.imp (hkept.passes pre l)
  cases hs with
  | body hc => exact hpasses.setCurrent (hkept.body pre l _ hc h.current)
  | label name hc hstrict hnew =>
    exact hpasses.setCurrent (hkept.label pre l _ name hc hstrict hnew h.current)
  | includeOnce hc => exact ⟨hpasses.main, hpasses.opened, hpasses.closed⟩
  | startupHook func hc => exact ⟨hpasses.main, hpasses.opened, hpasses.closed⟩
  | exitHook func hc => exact ⟨hpasses.main, hpasses.opened, hpasses.closed⟩
  | pragma d hc hd => exact hpasses
  | beginFunc hd params hc hopen hname hfree hparams hcheck =>
    refine ⟨hpasses.main, ?_, hpasses.closed⟩
    intro f hf
    cases hf
    rw [hpath]
    exact hkept.begins pre l hd params hc hparams hcheck
  | endFunc f hc hopen =>
    -- the function that ends is the one that was open
    refine ⟨hpasses.main, by simp, ?_⟩
    exact List.forall_mem_append.2 ⟨hpasses.closed, by simpa using hpasses.opened f hopen⟩

theorem each_of_run {P : List LogicalLine → FuncDecl → Prop} {ls : List LogicalLine}
    (hkept : FuncDecl.Kept ctx path P) (hrun : run ctx (empty path) ls = .ok o) :
    o.Each (P ls) := by
  have hempty : (empty path).Each (P []) := ⟨hkept.main, by simp [empty], by simp [empty]⟩
  have hboth : o.path = path ∧ o.Each (P ls) := by
    refine run_induction (P := fun pre o => o.path = path ∧ o.Each (P pre)) ?_ ⟨rfl, hempty⟩ hrun
    rintro pre o l o' ⟨hpath, h⟩ hs
    exact ⟨hs.path_eq.trans hpath, hs.each hkept hpath h⟩
  exact hboth.2

end Outline

/-! ## Scripts -/

namespace Script

variable {ctx : ScanContext} {path : Path} {source : LogicalSource} {s : Script}

/-- What is kept of each function holds of all functions of a script, with all lines of its
source. -/
theorem forall_declared {P : List LogicalLine → FuncDecl → Prop} (hkept : FuncDecl.Kept ctx path P)
    (h : ofSource ctx path source = .ok s) :
    ∀ f, .declared f ∈ s.functions.funcs → P source.lines f := by
  obtain ⟨o, hrun, hopen, rfl⟩ := ofSource_eq_ok_iff.1 h
  have heach := Outline.each_of_run hkept hrun
  have hfuncs := (holds_make (Outline.declares_of_run hrun) hopen).funcs_eq
  intro f hf
  rw [hfuncs] at hf
  obtain ⟨d, hd, heq⟩ := List.mem_map.1 hf
  cases heq
  rcases List.mem_append.1 hd with hd | hd
  · obtain ⟨e, he, rfl⟩ := List.mem_map.1 hd
    exact heach.closed e he
  · rw [List.mem_singleton.1 hd]
    exact heach.main

end Script

/-! ## Labels -/

/-- Whether the labels of a function stand at some of the labels of the given lines, in order. -/
def FuncDecl.LabelledBy (ls : List LogicalLine) (f : FuncDecl) : Prop :=
  (f.labels.map (·.span)).Sublist (LogicalLine.labelSpans ls)

theorem FuncDecl.kept_labelledBy (ctx : ScanContext) (path : Path) : Kept ctx path LabelledBy where
  main := List.nil_sublist _
  begins pre l hd params _ _ _ := List.nil_sublist _
  passes pre l f h := by
    rw [LabelledBy, LogicalLine.labelSpans_append]
    exact h.trans (List.sublist_append_left _ _)
  body pre l f _ h := by
    rw [LabelledBy, LogicalLine.labelSpans_append]
    exact h.trans (List.sublist_append_left _ _)
  label pre l f name hc _ _ h := by
    have hspan : LogicalLine.labelSpans [l] = [l.span] := by
      simp [LogicalLine.labelSpans, Text.isLabel_of_classify hc]
    have hlabels : (f.addLabel name l.span).labels.map (·.span) =
        f.labels.map (·.span) ++ [l.span] := by
      simp [FuncDecl.addLabel, FuncDecl.addLine]
    rw [LabelledBy, LogicalLine.labelSpans_append, hspan, hlabels]
    exact h.append (List.Sublist.refl _)

theorem Script.labelSpans_sublist {ctx : ScanContext} {path : Path} {source : LogicalSource}
    {s : Script} (h : ofSource ctx path source = .ok s) :
    ∀ f, .declared f ∈ s.functions.funcs → f.LabelledBy source.lines :=
  forall_declared (FuncDecl.kept_labelledBy ctx path) h

end ScriptScan
