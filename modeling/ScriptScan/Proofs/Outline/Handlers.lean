import ScriptScan.Proofs.Outline.Step

/-!
# Handlers and places

The handlers of pragmas belong to the host, and are the one thing in the reading of a script that
may look at places. A handler that does not is blind to places (`PragmaHandler.PlaceBlind`). And
what an outline becomes does not depend on what handlers do, as long as they accept: a run that
succeeds does the same with handlers that accept everything (`Outline.run_silenced`).
-/

namespace ScriptScan

/-! ## Blind handlers -/

/-- Whether a handler answers the same at every place. -/
def PragmaHandler.PlaceBlind (h : PragmaHandler) : Prop :=
  ∀ (key : Text) (value? : Option Text) (s t : Span),
    (h.handle s key value?).mapError Fault.key = (h.handle t key value?).mapError Fault.key

theorem Directive.process_congr {hs : List PragmaHandler} (hblind : ∀ h ∈ hs, h.PlaceBlind)
    (d : Directive) (s t : Span) :
    (d.process hs s).mapError Fault.key = (d.process hs t).mapError Fault.key := by
  unfold process dispatch
  by_cases hcompile : d.option = compileOption
  · rw [if_pos hcompile]
    cases compileKeys.contains d.key <;> rfl
  · rw [if_neg hcompile]
    cases hfind : hs.find? (·.claims d.option) with
    | none => rfl
    | some h =>
      have hmem := List.mem_of_find?_eq_some hfind
      by_cases haccepts : h.accepts d.key = true
      · simp only [haccepts, if_true]
        exact hblind h hmem d.key d.value? s t
      · simp only [haccepts, Bool.false_eq_true, if_false]
        rfl

/-- At two places a directive is accepted, or it is refused with one key. -/
theorem Directive.process_cases {hs : List PragmaHandler} (hblind : ∀ h ∈ hs, h.PlaceBlind)
    (d : Directive) (s t : Span) :
    (d.process hs s = .ok () ∧ d.process hs t = .ok ()) ∨
      ∃ f g, d.process hs s = .error f ∧ d.process hs t = .error g ∧ f.key = g.key := by
  have hsame := d.process_congr hblind s t
  cases hr : d.process hs s with
  | ok u =>
    cases hr' : d.process hs t with
    | ok u' => exact .inl ⟨rfl, rfl⟩
    | error g =>
      rw [hr, hr'] at hsame
      cases hsame
  | error f =>
    cases hr' : d.process hs t with
    | ok u' =>
      rw [hr, hr'] at hsame
      cases hsame
    | error g =>
      rw [hr, hr'] at hsame
      exact .inr ⟨f, g, rfl, rfl, Except.error.inj hsame⟩

/-! ## Silenced handlers -/

/-- The handler that accepts what it is given, whatever that is. -/
def PragmaHandler.silenced (h : PragmaHandler) : PragmaHandler :=
  { h with handle := fun _ _ _ => .ok () }

/-- The context in which no handler raises a fault of its own. -/
def ScanContext.silenced (ctx : ScanContext) : ScanContext :=
  { ctx with handlers := ctx.handlers.map (·.silenced) }

theorem ScanContext.placeBlind_silenced (ctx : ScanContext) :
    ∀ h ∈ ctx.silenced.handlers, h.PlaceBlind := by
  intro h hmem
  obtain ⟨h', -, rfl⟩ := List.mem_map.1 hmem
  exact fun _ _ _ _ => rfl

/-- What is accepted by handlers is accepted by silenced ones. -/
theorem Directive.process_silenced {hs : List PragmaHandler} {d : Directive} {s : Span}
    (h : d.process hs s = .ok ()) : d.process (hs.map (·.silenced)) s = .ok () := by
  unfold process dispatch at h ⊢
  by_cases hcompile : d.option = compileOption
  · rw [if_pos hcompile] at h ⊢
    exact h
  · rw [if_neg hcompile] at h ⊢
    have hfind : (hs.map (·.silenced)).find? (·.claims d.option) =
        (hs.find? (·.claims d.option)).map (·.silenced) := List.find?_map
    rw [hfind]
    cases hclaims : hs.find? (·.claims d.option) with
    | none =>
      rw [hclaims] at h
      cases h
    | some handler =>
      rw [hclaims] at h
      by_cases haccepts : handler.accepts d.key = true
      · simp only [Option.map_some, PragmaHandler.silenced, haccepts, if_true]
        rfl
      · simp only [haccepts, Bool.false_eq_true, if_false] at h
        cases h

namespace Outline

variable {ctx : ScanContext} {o o' : Outline} {l : LogicalLine} {ls : List LogicalLine}

theorem Step.silenced (hs : Step ctx o l o') : Step ctx.silenced o l o' := by
  cases hs with
  | body hc => exact .body hc
  | includeOnce hc => exact .includeOnce hc
  | startupHook func hc => exact .startupHook func hc
  | exitHook func hc => exact .exitHook func hc
  | pragma d hc hd => exact .pragma d hc (d.process_silenced hd)
  | beginFunc hd params hc hopen hname hfree hparams hcheck =>
    exact .beginFunc hd params hc hopen hname hfree hparams hcheck
  | endFunc f hc hopen => exact .endFunc f hc hopen
  | label name hc hstrict hnew => exact .label name hc hstrict hnew

/-- A run that succeeds does so with silenced handlers, too. -/
theorem run_silenced (hrun : run ctx o ls = .ok o') : run ctx.silenced o ls = .ok o' := by
  induction ls generalizing o with
  | nil => exact hrun
  | cons l ls ih =>
    obtain ⟨o₁, hs, hrest⟩ := run_cons_eq_ok hrun
    rw [run_cons_of_step hs.silenced]
    exact ih hrest

end Outline

end ScriptScan
