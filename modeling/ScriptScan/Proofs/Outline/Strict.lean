import ScriptScan.Proofs.Outline.Each

/-!
# Outlines in strict mode

To an outline, strict mode means that labels are refused, and nothing else. So a source gives the
same script in both modes, unless strict mode refuses one of its labels; and a script that strict
mode accepts has no labels at all.
-/

namespace ScriptScan

/-! ## The two modes -/

namespace Outline

variable {ctx : ScanContext} {o o' : Outline}

theorem step_strict_cases (ctx : ScanContext) (o : Outline) (l : LogicalLine) :
    step { ctx with strict := true } o l = step { ctx with strict := false } o l ∨
      step { ctx with strict := true } o l = .error ⟨.jumpLabel, l.span⟩ := by
  unfold step
  cases LineRule.classify l.text with
  | none => exact .inl rfl
  | some form =>
    cases form with
    | label name => exact .inr rfl
    | includeOnce => exact .inl rfl
    | startupHook func => exact .inl rfl
    | exitHook func => exact .inl rfl
    | pragma d => exact .inl rfl
    | func h => exact .inl rfl
    | endFunc => exact .inl rfl

theorem run_strict_cases (ctx : ScanContext) (o : Outline) (ls : List LogicalLine) :
    run { ctx with strict := true } o ls = run { ctx with strict := false } o ls ∨
      ∃ span, run { ctx with strict := true } o ls = .error ⟨.jumpLabel, span⟩ := by
  induction ls generalizing o with
  | nil => exact .inl rfl
  | cons l ls ih =>
    simp only [run]
    rcases step_strict_cases ctx o l with heq | hrefused
    · rw [heq]
      cases step { ctx with strict := false } o l with
      | error f => exact .inl rfl
      | ok o₁ => exact ih o₁
    · right
      rw [hrefused]
      exact ⟨l.span, rfl⟩

end Outline

theorem Script.ofSource_strict_cases (ctx : ScanContext) (path : Path) (source : LogicalSource) :
    ofSource { ctx with strict := true } path source =
        ofSource { ctx with strict := false } path source ∨
      ∃ span, ofSource { ctx with strict := true } path source = .error ⟨.jumpLabel, span⟩ := by
  unfold ofSource
  rcases Outline.run_strict_cases ctx (.empty path) source.lines with heq | ⟨span, hrefused⟩
  · left
    rw [heq]
  · right
    refine ⟨span, ?_⟩
    rw [hrefused]

/-! ## No labels -/

/-- Whether no function of a script has a label. -/
def Script.Unlabelled (s : Script) : Prop :=
  ∀ f, .declared f ∈ s.functions.funcs → f.labels = []

/-- The one line that gives a function a label is refused in strict mode. -/
theorem FuncDecl.kept_unlabelled {ctx : ScanContext} (hstrict : ctx.strict = true) (path : Path) :
    Kept ctx path fun _ f => f.labels = [] where
  main := rfl
  begins _ _ _ _ _ _ _ := rfl
  passes _ _ _ h := h
  body _ _ _ _ h := h
  label _ _ _ _ _ hlenient _ _ := by
    rw [hstrict] at hlenient
    cases hlenient

/-- A script that is accepted in strict mode has no labels. -/
theorem Script.unlabelled_of_ofSource {ctx : ScanContext} {path : Path} {source : LogicalSource}
    {s : Script} (hstrict : ctx.strict = true) (h : ofSource ctx path source = .ok s) :
    s.Unlabelled :=
  forall_declared (FuncDecl.kept_unlabelled hstrict path) h

end ScriptScan
