import ScriptScan.Proofs.Outline.Functions
import ScriptScan.Proofs.Param.Rules

/-!
# Faults of an outline

The other half of `Outline.Step`: everything that can break off the reading of a script.

* `Outline.Fails` has one constructor for each check that a line can fail, with the fault that this
  gives; `step_eq_error_iff` says that a step fails exactly along it.
* `run_eq_error_iff` — a run fails in the first line that fails.
* `Script.ofSource_eq_error_iff` — besides, a script fails if a function is still open at its end.

A handler of pragmas belongs to the host and may raise any fault at any place
(`LogicalLine.Raises`). All other faults stand at the line that fails (`Fails.placed`).
-/

namespace ScriptScan

/-- Only a name that is taken has the key of one, unless the host raises a fault under this key. -/
theorem Cause.duplicateFunc_or_raised {cause : Cause}
    (h : cause.key = "error.duplicate_function".toList) :
    (∃ name prior, cause = .duplicateFunc name prior) ∨ ∃ key args, cause = .raised key args := by
  cases cause with
  | duplicateFunc name prior => exact .inl ⟨name, prior, rfl⟩
  | raised key args => exact .inr ⟨key, args, rfl⟩
  | _ => exact absurd (String.toList_inj.1 h) (by decide)

/-! ## One line -/

/-- Whether a line is a pragma whose handler raises a fault. -/
def LogicalLine.Raises (ctx : ScanContext) (l : LogicalLine) (f : Fault) : Prop :=
  ∃ d h, LineRule.classify l.text = some (.pragma d) ∧ d.dispatch ctx.handlers = .accepted h ∧
    h.handle l.span d.key d.value? = .error f

namespace Outline

/-- `Fails ctx o l f`: reading the line `l` breaks off the outline `o` with the fault `f`. -/
inductive Fails (ctx : ScanContext) (o : Outline) (l : LogicalLine) : Fault → Prop where
  | raised (f : Fault) (hf : l.Raises ctx f) : Fails ctx o l f
  | notImplemented (d : Directive) (hc : LineRule.classify l.text = some (.pragma d))
      (hd : d.dispatch ctx.handlers = .builtin true) :
      Fails ctx o l ⟨.notYetImplemented "compile".toList, l.span⟩
  | unknownKey (d : Directive) (hc : LineRule.classify l.text = some (.pragma d))
      (hd : d.dispatch ctx.handlers = .builtin false) :
      Fails ctx o l ⟨.unhandledPragmaKey d.key d.option, l.span⟩
  | refusedKey (d : Directive) (h : PragmaHandler)
      (hc : LineRule.classify l.text = some (.pragma d))
      (hd : d.dispatch ctx.handlers = .refused h) :
      Fails ctx o l ⟨.unhandledPragmaKey d.key d.option, l.span⟩
  | unclaimed (d : Directive) (hc : LineRule.classify l.text = some (.pragma d))
      (hd : d.dispatch ctx.handlers = .unclaimed) :
      Fails ctx o l ⟨.unhandledPragmaOption d.option, l.span⟩
  | nested (h : FuncHeader) (g : FuncDecl) (hc : LineRule.classify l.text = some (.func h))
      (hopen : o.open? = some g) :
      Fails ctx o l ⟨.nestedFunc g.name, l.span⟩
  | reserved (h : FuncHeader) (hc : LineRule.classify l.text = some (.func h))
      (hopen : o.open? = none) (hname : isReservedName h.name = true) :
      Fails ctx o l ⟨.reservedName h.name, l.span⟩
  | taken (h : FuncHeader) (prior : Span) (hc : LineRule.classify l.text = some (.func h))
      (hopen : o.open? = none) (hname : isReservedName h.name = false)
      (hprior : o.priorDeclaration? ctx h.name.key = some prior) :
      Fails ctx o l ⟨.duplicateFunc h.name prior, l.span⟩
  | unparsable (h : FuncHeader) (reason : Text)
      (hc : LineRule.classify l.text = some (.func h))
      (hopen : o.open? = none) (hname : isReservedName h.name = false)
      (hfree : o.priorDeclaration? ctx h.name.key = none)
      (hparams : ctx.parseParams h.params = .error reason) :
      Fails ctx o l ⟨.unparsableParams h.params reason, l.span⟩
  | params (h : FuncHeader) (ps : List Param) (cause : Cause)
      (hc : LineRule.classify l.text = some (.func h))
      (hopen : o.open? = none) (hname : isReservedName h.name = false)
      (hfree : o.priorDeclaration? ctx h.name.key = none)
      (hparams : ctx.parseParams h.params = .ok ps) (hcheck : Param.check ps = some cause) :
      Fails ctx o l ⟨cause, l.span⟩
  | strayEnd (hc : LineRule.classify l.text = some .endFunc) (hopen : o.open? = none) :
      Fails ctx o l ⟨.strayEndFunc, l.span⟩
  | strictLabel (name : Text) (hc : LineRule.classify l.text = some (.label name))
      (hstrict : ctx.strict = true) :
      Fails ctx o l ⟨.jumpLabel, l.span⟩
  | takenLabel (name : Text) (prior : Label) (hc : LineRule.classify l.text = some (.label name))
      (hstrict : ctx.strict = false) (hprior : o.current.label? name = some prior) :
      Fails ctx o l ⟨.duplicateLabel name prior.span, l.span⟩

variable {ctx : ScanContext} {o o' : Outline} {l : LogicalLine} {ls : List LogicalLine} {f : Fault}

/-! ### The function and the relation -/

theorem mapError_eq_error {ε ε' α : Type} {g : ε → ε'} {r : Except ε α} {e : ε'}
    (h : r.mapError g = .error e) : ∃ e', r = .error e' ∧ e = g e' := by
  cases r with
  | error e' => exact ⟨e', rfl, (Except.error.inj h).symm⟩
  | ok a => cases h

/-- A pragma that is refused. -/
theorem fails_of_process {d : Directive} (hc : LineRule.classify l.text = some (.pragma d))
    (h : d.process ctx.handlers l.span = .error f) : Fails ctx o l f := by
  unfold Directive.process at h
  cases hd : d.dispatch ctx.handlers with
  | builtin known =>
    rw [hd] at h
    cases known with
    | true =>
      cases h
      exact .notImplemented d hc hd
    | false =>
      cases h
      exact .unknownKey d hc hd
  | accepted handler =>
    rw [hd] at h
    exact .raised f ⟨d, handler, hc, hd, h⟩
  | refused handler =>
    rw [hd] at h
    cases h
    exact .refusedKey d handler hc hd
  | unclaimed =>
    rw [hd] at h
    cases h
    exact .unclaimed d hc hd

/-- A function that cannot begin: the checks one after the other. -/
theorem fails_of_beginFunc {h : FuncHeader} {cause : Cause}
    (hc : LineRule.classify l.text = some (.func h))
    (hb : o.beginFunc ctx h l.span = .error cause) : Fails ctx o l ⟨cause, l.span⟩ := by
  unfold beginFunc at hb
  split at hb
  · rename_i g hopen
    cases hb
    exact .nested h g hc hopen
  · rename_i hopen
    split at hb
    · rename_i hname
      cases hb
      exact .reserved h hc hopen hname
    · rename_i hname
      have hname' : isReservedName h.name = false := by simpa using hname
      split at hb
      · rename_i prior hprior
        cases hb
        exact .taken h prior hc hopen hname' hprior
      · rename_i hfree
        split at hb
        · rename_i reason hparams
          cases hb
          exact .unparsable h reason hc hopen hname' hfree hparams
        · rename_i ps hparams
          split at hb
          · rename_i cause' hcheck
            cases hb
            exact .params h ps cause hc hopen hname' hfree hparams hcheck
          · cases hb

theorem fails_of_addLabel {name : Text} {cause : Cause}
    (hc : LineRule.classify l.text = some (.label name))
    (ha : o.addLabel ctx name l.span = .error cause) : Fails ctx o l ⟨cause, l.span⟩ := by
  unfold addLabel at ha
  split at ha
  · rename_i hstrict
    cases ha
    exact .strictLabel name hc hstrict
  · rename_i hstrict
    have hstrict' : ctx.strict = false := by simpa using hstrict
    split at ha
    · rename_i prior hprior
      cases ha
      exact .takenLabel name prior hc hstrict' hprior
    · cases ha

/-- A line that shapes the script fails along the relation. -/
theorem fails_of_accept {form : LineForm} (hc : LineRule.classify l.text = some form)
    (ha : o.accept ctx form l.span = .error f) : Fails ctx o l f := by
  cases form with
  | includeOnce => cases ha
  | startupHook func => cases ha
  | exitHook func => cases ha
  | pragma d =>
    unfold accept at ha
    cases hd : d.process ctx.handlers l.span with
    | error f' =>
      simp only [hd, Except.map, Except.error.injEq] at ha
      subst ha
      exact fails_of_process hc hd
    | ok u => simp [hd, Except.map] at ha
  | func h =>
    obtain ⟨cause, hb, rfl⟩ := mapError_eq_error ha
    exact fails_of_beginFunc hc hb
  | endFunc =>
    obtain ⟨cause, he, rfl⟩ := mapError_eq_error ha
    unfold endFunc at he
    split at he
    · rename_i hopen
      cases he
      exact .strayEnd hc hopen
    · cases he
  | label name =>
    obtain ⟨cause, ha', rfl⟩ := mapError_eq_error ha
    exact fails_of_addLabel hc ha'

/-- The relation holds exactly between an outline, a line and the fault that the step fails with. -/
theorem step_eq_error_iff : step ctx o l = .error f ↔ Fails ctx o l f := by
  constructor
  · intro h
    unfold step at h
    split at h
    · rename_i form hc
      exact fails_of_accept hc h
    · cases h
  · -- the check of the constructor is the one at which the function breaks off
    intro h
    cases h with
    | raised f hf =>
      obtain ⟨d, handler, hc, hd, hhandle⟩ := hf
      simp [step, hc, accept, Directive.process, hd, Dispatch.carryOut, hhandle, Except.map]
    | notImplemented d hc hd =>
      simp [step, hc, accept, Directive.process, hd, Dispatch.carryOut, Except.map]
    | unknownKey d hc hd =>
      simp [step, hc, accept, Directive.process, hd, Dispatch.carryOut, Except.map]
    | refusedKey d handler hc hd =>
      simp [step, hc, accept, Directive.process, hd, Dispatch.carryOut, Except.map]
    | unclaimed d hc hd =>
      simp [step, hc, accept, Directive.process, hd, Dispatch.carryOut, Except.map]
    | nested h g hc hopen => simp [step, hc, accept, beginFunc, hopen, Except.mapError]
    | reserved h hc hopen hname =>
      simp [step, hc, accept, beginFunc, hopen, hname, Except.mapError]
    | taken h prior hc hopen hname hprior =>
      simp [step, hc, accept, beginFunc, hopen, hname, hprior, Except.mapError]
    | unparsable h reason hc hopen hname hfree hparams =>
      simp [step, hc, accept, beginFunc, hopen, hname, hfree, hparams, Except.mapError]
    | params h ps cause hc hopen hname hfree hparams hcheck =>
      simp [step, hc, accept, beginFunc, hopen, hname, hfree, hparams, hcheck, Except.mapError]
    | strayEnd hc hopen => simp [step, hc, accept, endFunc, hopen, Except.mapError]
    | strictLabel name hc hstrict =>
      simp [step, hc, accept, addLabel, hstrict, Except.mapError]
    | takenLabel name prior hc hstrict hprior =>
      simp [step, hc, accept, addLabel, hstrict, hprior, Except.mapError]

/-- A handler has raised the fault; or the name of a function is taken; or the fault stands at the
line as well, and does not say that a name is taken or that the source ends too early. -/
theorem Fails.cases (h : Fails ctx o l f) :
    l.Raises ctx f ∨
      (∃ hd prior, LineRule.classify l.text = some (.func hd) ∧ o.open? = none ∧
        o.priorDeclaration? ctx hd.name.key = some prior ∧
        f = ⟨.duplicateFunc hd.name prior, l.span⟩) ∨
      (f.span = l.span ∧ (∀ name prior, f.cause ≠ .duplicateFunc name prior) ∧
        (∀ name, f.cause ≠ .unclosedFunc name) ∧ ∀ key args, f.cause ≠ .raised key args) := by
  cases h with
  | raised f hf => exact .inl hf
  | taken h prior hc hopen hname hprior => exact .inr (.inl ⟨h, prior, hc, hopen, hprior, rfl⟩)
  | params h ps cause hc hopen hname hfree hparams hcheck =>
    refine .inr (.inr ⟨rfl, ?_⟩)
    rcases Param.check_cases hcheck with ⟨v, rfl⟩ | ⟨v, rfl⟩ | ⟨k, v, rfl⟩ <;> simp
  | notImplemented d hc hd => exact .inr (.inr ⟨rfl, by simp⟩)
  | unknownKey d hc hd => exact .inr (.inr ⟨rfl, by simp⟩)
  | refusedKey d handler hc hd => exact .inr (.inr ⟨rfl, by simp⟩)
  | unclaimed d hc hd => exact .inr (.inr ⟨rfl, by simp⟩)
  | nested h g hc hopen => exact .inr (.inr ⟨rfl, by simp⟩)
  | reserved h hc hopen hname => exact .inr (.inr ⟨rfl, by simp⟩)
  | unparsable h reason hc hopen hname hfree hparams => exact .inr (.inr ⟨rfl, by simp⟩)
  | strayEnd hc hopen => exact .inr (.inr ⟨rfl, by simp⟩)
  | strictLabel name hc hstrict => exact .inr (.inr ⟨rfl, by simp⟩)
  | takenLabel name prior hc hstrict hprior => exact .inr (.inr ⟨rfl, by simp⟩)

/-- A fault stands at the line that fails, and does not say that the source ends too early; unless
a handler has raised it. -/
theorem Fails.placed (h : Fails ctx o l f) :
    l.Raises ctx f ∨ (f.span = l.span ∧ ∀ name, f.cause ≠ .unclosedFunc name) := by
  rcases h.cases with hraises | ⟨hd, prior, -, -, -, rfl⟩ | ⟨hspan, -, hcause, -⟩
  · exact .inl hraises
  · exact .inr ⟨rfl, by simp⟩
  · exact .inr ⟨hspan, hcause⟩

/-- A name is found taken by a line that declares a function, unless a handler says so. -/
theorem Fails.taken_of_key (h : Fails ctx o l f)
    (hkey : f.key = "error.duplicate_function".toList) :
    l.Raises ctx f ∨ ∃ hd prior, LineRule.classify l.text = some (.func hd) ∧ o.open? = none ∧
      o.priorDeclaration? ctx hd.name.key = some prior ∧
      f = ⟨.duplicateFunc hd.name prior, l.span⟩ := by
  rcases h.cases with hraises | htaken | ⟨-, htaken, -, hraised⟩
  · exact .inl hraises
  · exact .inr htaken
  · -- no other cause has this key
    rcases Cause.duplicateFunc_or_raised hkey with ⟨name, prior, hcause⟩ | ⟨key, args, hcause⟩
    · exact absurd hcause (htaken name prior)
    · exact absurd hcause (hraised key args)

/-! ## Runs -/

/-- Whether the reading of some lines comes to a pragma whose handler raises a fault. -/
def Raised (ctx : ScanContext) (o : Outline) (ls : List LogicalLine) (f : Fault) : Prop :=
  ∃ pre l post o', ls = pre ++ l :: post ∧ run ctx o pre = .ok o' ∧ l.Raises ctx f

/-- A run fails in a line that fails behind lines that are read. -/
theorem run_eq_error_iff :
    run ctx o ls = .error f ↔
      ∃ pre l post o', ls = pre ++ l :: post ∧ run ctx o pre = .ok o' ∧ Fails ctx o' l f := by
  induction ls generalizing o with
  | nil => simp [run]
  | cons l ls ih =>
    cases hs : step ctx o l with
    | error f' =>
      simp only [run, hs, Except.error.injEq]
      constructor
      · rintro rfl
        exact ⟨[], l, ls, o, rfl, rfl, step_eq_error_iff.1 hs⟩
      · rintro ⟨pre, l', post, o', heq, hrun, hfails⟩
        cases pre with
        | nil =>
          cases heq
          cases hrun
          rw [step_eq_error_iff.2 hfails] at hs
          exact (Except.error.inj hs).symm
        | cons a pre =>
          -- the lines before would begin with the line that fails
          cases heq
          obtain ⟨o₁, hstep, -⟩ := run_cons_eq_ok hrun
          rw [step_eq_ok_iff.2 hstep] at hs
          cases hs
    | ok o₁ =>
      simp only [run, hs, ih]
      constructor
      · rintro ⟨pre, l', post, o', rfl, hrun, hfails⟩
        exact ⟨l :: pre, l', post, o', rfl, by simpa [run, hs] using hrun, hfails⟩
      · rintro ⟨pre, l', post, o', heq, hrun, hfails⟩
        cases pre with
        | nil =>
          cases heq
          cases hrun
          rw [step_eq_error_iff.2 hfails] at hs
          cases hs
        | cons a pre =>
          cases heq
          exact ⟨pre, l', post, o', rfl, by simpa [run, hs] using hrun, hfails⟩

end Outline

/-! ## Scripts -/

/-- A source is no script because of a line that fails, or because a function is open at its
end. -/
theorem Script.ofSource_eq_error_iff {ctx : ScanContext} {path : Path} {source : LogicalSource}
    {f : Fault} :
    ofSource ctx path source = .error f ↔
      (∃ pre l post o, source.lines = pre ++ l :: post ∧
        Outline.run ctx (.empty path) pre = .ok o ∧ Outline.Fails ctx o l f) ∨
      ∃ o g, Outline.run ctx (.empty path) source.lines = .ok o ∧ o.open? = some g ∧
        f = ⟨.unclosedFunc g.name, .line path.text (source.physicalCount + 1)⟩ := by
  unfold ofSource
  cases hrun : Outline.run ctx (.empty path) source.lines with
  | error f' =>
    rw [← Outline.run_eq_error_iff, hrun]
    simp
  | ok o =>
    have hpath := (Outline.declares_of_run hrun).path_eq
    rw [← Outline.run_eq_error_iff, hrun]
    cases hopen : o.open? with
    | none => simp [Outline.finish, hopen]
    | some g =>
      simp only [Outline.finish, hopen, hpath, Except.error.injEq, reduceCtorEq, false_or,
        Except.ok.injEq, exists_and_left, exists_eq_left', Option.some.injEq]
      exact eq_comm

end ScriptScan
