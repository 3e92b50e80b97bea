import ScriptScan.Script.Outline

/-!
# Steps of an outline

`Outline.step` reads one line and either breaks off with a fault or answers with the next outline.
Everything that a successful step can do is said here, once:

* `Outline.Step` is the step relation, with one constructor for each kind of line and all the
  conditions that the line has met;
* `step_eq_ok_iff` says that the function succeeds exactly along the relation;
* `run_induction` turns what each step keeps into what a whole run keeps. It follows the lines that
  have been read so far, because what an outline holds is told by those.
-/

namespace ScriptScan

namespace Outline

/-- `Step ctx o l o'`: reading the line `l` turns the outline `o` into `o'`. -/
inductive Step (ctx : ScanContext) (o : Outline) (l : LogicalLine) : Outline → Prop where
  | body (hc : LineRule.classify l.text = none) :
      Step ctx o l (o.setCurrent (o.current.addLine l))
  | includeOnce (hc : LineRule.classify l.text = some .includeOnce) :
      Step ctx o l { o with includeOnce := true }
  | startupHook (func : Text) (hc : LineRule.classify l.text = some (.startupHook func)) :
      Step ctx o l { o with startup := o.startup ++ [⟨func, l.span⟩] }
  | exitHook (func : Text) (hc : LineRule.classify l.text = some (.exitHook func)) :
      Step ctx o l { o with exit := o.exit ++ [⟨func, l.span⟩] }
  | pragma (d : Directive) (hc : LineRule.classify l.text = some (.pragma d))
      (hd : d.process ctx.handlers l.span = .ok ()) :
      Step ctx o l o
  | beginFunc (h : FuncHeader) (params : List Param)
      (hc : LineRule.classify l.text = some (.func h))
      (hopen : o.open? = none)
      (hname : isReservedName h.name = false)
      (hfree : o.priorDeclaration? ctx h.name.key = none)
      (hparams : ctx.parseParams h.params = .ok params)
      (hcheck : Param.check params = none) :
      Step ctx o l { o with open? := some (.ofHeader h o.path l.span params) }
  | endFunc (f : FuncDecl) (hc : LineRule.classify l.text = some .endFunc)
      (hopen : o.open? = some f) :
      Step ctx o l { o with open? := none, closed := o.closed ++ [(f.name.key, f)] }
  | label (name : Text) (hc : LineRule.classify l.text = some (.label name))
      (hstrict : ctx.strict = false)
      (hnew : o.current.label? name = none) :
      Step ctx o l (o.setCurrent (o.current.addLabel name l.span))

variable {ctx : ScanContext} {o o' : Outline} {l : LogicalLine}

/-! ## The function and the relation -/

theorem beginFunc_eq_ok {h : FuncHeader} {span : Span} (hb : o.beginFunc ctx h span = .ok o') :
    ∃ params, o.open? = none ∧ isReservedName h.name = false ∧
      o.priorDeclaration? ctx h.name.key = none ∧ ctx.parseParams h.params = .ok params ∧
      Param.check params = none ∧
      o' = { o with open? := some (.ofHeader h o.path span params) } := by
  unfold beginFunc at hb
  -- each check that fails is an error, so only one way through is left
  split at hb
  · simp at hb
  · rename_i hopen
    split at hb
    · simp at hb
    · rename_i hname
      split at hb
      · simp at hb
      · rename_i hfree
        split at hb
        · simp at hb
        · rename_i params hparams
          split at hb
          · simp at hb
          · rename_i hcheck
            have hname' : isReservedName h.name = false := by simpa using hname
            exact ⟨params, hopen, hname', hfree, hparams, hcheck, (Except.ok.inj hb).symm⟩

theorem addLabel_eq_ok {name : Text} {span : Span} (ha : o.addLabel ctx name span = .ok o') :
    ctx.strict = false ∧ o.current.label? name = none ∧
      o' = o.setCurrent (o.current.addLabel name span) := by
  unfold addLabel at ha
  split at ha
  · simp at ha
  · rename_i hstrict
    split at ha
    · simp at ha
    · rename_i hnew
      have hstrict' : ctx.strict = false := by simpa using hstrict
      exact ⟨hstrict', hnew, (Except.ok.inj ha).symm⟩

theorem mapError_eq_ok {ε ε' α : Type} {f : ε → ε'} {r : Except ε α} {a : α}
    (h : r.mapError f = .ok a) : r = .ok a := by
  cases r with
  | error e => cases h
  | ok b =>
    cases h
    rfl

theorem mapError_ok {ε ε' α : Type} (f : ε → ε') (a : α) :
    (Except.ok a : Except ε α).mapError f = .ok a := rfl

/-- A line that shapes the script is read along the relation. -/
theorem step_of_accept {form : LineForm} (hc : LineRule.classify l.text = some form)
    (ha : o.accept ctx form l.span = .ok o') : Step ctx o l o' := by
  cases form with
  | includeOnce =>
    cases ha
    exact .includeOnce hc
  | startupHook func =>
    cases ha
    exact .startupHook func hc
  | exitHook func =>
    cases ha
    exact .exitHook func hc
  | pragma d =>
    unfold accept at ha
    cases hd : d.process ctx.handlers l.span with
    | error f => simp [hd, Except.map] at ha
    | ok u =>
      simp only [hd, Except.map] at ha
      cases ha
      exact .pragma d hc hd
  | func h =>
    have hbegin := beginFunc_eq_ok (mapError_eq_ok ha)
    rcases hbegin with ⟨params, hopen, hname, hfree, hparams, hcheck, rfl⟩
    exact .beginFunc h params hc hopen hname hfree hparams hcheck
  | endFunc =>
    have hend := mapError_eq_ok ha
    unfold endFunc at hend
    split at hend
    · simp at hend
    · rename_i f hopen
      cases hend
      exact .endFunc f hc hopen
  | label name =>
    rcases addLabel_eq_ok (mapError_eq_ok ha) with ⟨hstrict, hnew, rfl⟩
    exact .label name hc hstrict hnew

/-- The relation holds exactly between an outline and the one that the function answers with. -/
theorem step_eq_ok_iff : step ctx o l = .ok o' ↔ Step ctx o l o' := by
  constructor
  · -- the function succeeds: by the kind of the line
    intro h
    unfold step at h
    split at h
    · rename_i form hc
      exact step_of_accept hc h
    · rename_i hc
      cases h
      exact .body hc
  · -- the relation holds: its conditions are the checks of the function
    intro h
    cases h with
    | body hc => simp [step, hc]
    | includeOnce hc => simp [step, hc, accept]
    | startupHook func hc => simp [step, hc, accept]
    | exitHook func hc => simp [step, hc, accept]
    | pragma d hc hd => simp [step, hc, accept, hd, Except.map]
    | beginFunc h params hc hopen hname hfree hparams hcheck =>
      simp [step, hc, accept, beginFunc, hopen, hname, hfree, hparams, hcheck, mapError_ok]
    | endFunc f hc hopen => simp [step, hc, accept, endFunc, hopen, mapError_ok]
    | label name hc hstrict hnew =>
      simp [step, hc, accept, addLabel, hstrict, hnew, mapError_ok]

/-! ## Runs -/

theorem run_cons_eq_ok {ls : List LogicalLine} (h : run ctx o (l :: ls) = .ok o') :
    ∃ o₁, Step ctx o l o₁ ∧ run ctx o₁ ls = .ok o' := by
  simp only [run] at h
  split at h
  · simp at h
  · rename_i o₁ hs
    exact ⟨o₁, step_eq_ok_iff.1 hs, h⟩

theorem run_cons_of_step {o₁ : Outline} {ls : List LogicalLine} (hs : Step ctx o l o₁) :
    run ctx o (l :: ls) = run ctx o₁ ls := by
  simp only [run, step_eq_ok_iff.2 hs]

/-- What holds before the first line and is kept by every step holds at the end of a run. The first
argument of `P` is the list of lines that have been read. -/
theorem run_induction {P : List LogicalLine → Outline → Prop} {ls : List LogicalLine}
    (hstep : ∀ {pre o l o'}, P pre o → Step ctx o l o' → P (pre ++ [l]) o')
    (h : P [] o) (hrun : run ctx o ls = .ok o') : P ls o' := by
  -- the induction is on the lines that are left, with those that have been read before them
  have hfrom : ∀ {pre o}, P pre o → run ctx o ls = .ok o' → P (pre ++ ls) o' := by
    clear h hrun
    induction ls with
    | nil =>
      intro pre o h hrun
      cases hrun
      simpa using h
    | cons l ls ih =>
      intro pre o h hrun
      rcases run_cons_eq_ok hrun with ⟨o₁, hs, hrest⟩
      have h₁ := ih (hstep h hs) hrest
      simpa using h₁
  exact hfrom h hrun

/-! ## What a line does to the other parts -/

@[simp] theorem setCurrent_path (f : FuncDecl) : (o.setCurrent f).path = o.path := by
  unfold setCurrent
  split <;> rfl

@[simp] theorem setCurrent_closed (f : FuncDecl) : (o.setCurrent f).closed = o.closed := by
  unfold setCurrent
  split <;> rfl

theorem setCurrent_of_open {f g : FuncDecl} (h : o.open? = some f) :
    o.setCurrent g = { o with open? := some g } := by
  simp [setCurrent, h]

theorem setCurrent_of_main {g : FuncDecl} (h : o.open? = none) :
    o.setCurrent g = { o with main := g } := by
  simp [setCurrent, h]

theorem current_of_open {f : FuncDecl} (h : o.open? = some f) : o.current = f := by
  simp [current, h]

theorem current_of_main (h : o.open? = none) : o.current = o.main := by
  simp [current, h]

end Outline

end ScriptScan
