import ScriptScan.Proofs.Catalog.Read
import ScriptScan.Proofs.Outline.Each
import ScriptScan.Proofs.Param.Rules

/-!
# Parameters of functions

Whatever parameters the host reads out of a declaration that passes the other checks, the
declaration is accepted exactly if they keep the rules (`ScriptScan.Proofs.Param.Rules`), and
otherwise refused for the first parameter that breaks one. So the parameters of every function of
every script keep the rules: the required ones come first, and the least number of arguments is
their number.

* `Outline.step_declared_ok_iff`, `Outline.step_declared_error_iff` — one declaration.
* `Script.WellDeclared` is what holds of every script.
* `Catalog.params_decided` is the conclusion.
-/

namespace ScriptScan

/-! ## One declaration -/

namespace Outline

variable {ctx : ScanContext} {o : Outline} {l : LogicalLine} {hd : FuncHeader} {ps : List Param}
  {f : Fault}

section

variable (hc : LineRule.classify l.text = some (.func hd)) (hopen : o.open? = none)
  (hname : isReservedName hd.name = false) (hfree : o.priorDeclaration? ctx hd.name.key = none)
  (hparams : ctx.parseParams hd.params = .ok ps)

include hc hopen hname hfree hparams

/-- Only the rules decide about a declaration that passes the other checks. -/
theorem step_declared :
    step ctx o l = match Param.check ps with
      | some cause => .error ⟨cause, l.span⟩
      | none => .ok { o with open? := some (.ofHeader hd o.path l.span ps) } := by
  simp only [step, hc, accept, beginFunc, hopen, hname, hfree, hparams, Bool.false_eq_true,
    if_false]
  cases Param.check ps <;> rfl

theorem step_declared_ok_iff : (∃ o', step ctx o l = .ok o') ↔ Param.WellFormed ps := by
  rw [step_declared hc hopen hname hfree hparams, ← Param.check_eq_none_iff]
  cases Param.check ps <;> simp

theorem step_declared_error_iff :
    step ctx o l = .error f ↔
      ∃ cause, f = ⟨cause, l.span⟩ ∧
        (FirstAt Param.Repeats ps cause ∨
          (ps.Pairwise fun p q => p.var.same q.var = false) ∧ FirstAt Param.Breaks ps cause) := by
  simp only [Param.distinct_iff, ← Param.check_eq_some_iff]
  rw [step_declared hc hopen hname hfree hparams]
  cases Param.check ps <;> simp [eq_comm]

end

end Outline

/-! ## Scripts -/

/-- Whether all functions of a script are declared with parameters that keep the rules. -/
def Script.WellDeclared (s : Script) : Prop :=
  ∀ g ∈ s.functions.funcs, ∃ f, g = .declared f ∧ Param.WellFormed f.params

theorem Param.wellFormed_nil : Param.WellFormed [] := ⟨.nil, by simp, .nil⟩

theorem FuncDecl.kept_wellFormed (ctx : ScanContext) (path : Path) :
    Kept ctx path fun _ f => Param.WellFormed f.params where
  main := Param.wellFormed_nil
  begins _ _ _ _ _ _ hcheck := Param.check_eq_none_iff.1 hcheck
  passes _ _ _ h := h
  body _ _ _ _ h := h
  label _ _ _ _ _ _ _ h := h

theorem Script.wellDeclared_of_ofSource {ctx : ScanContext} {path : Path} {source : LogicalSource}
    {s : Script} (h : ofSource ctx path source = .ok s) : s.WellDeclared := by
  obtain ⟨decls, main, hholds, -⟩ := ofSource_holds h
  have hall := forall_declared (FuncDecl.kept_wellFormed ctx path) h
  intro g hg
  have hmem := hg
  rw [hholds.funcs_eq] at hmem
  obtain ⟨f, -, rfl⟩ := List.mem_map.1 hmem
  exact ⟨f, rfl, hall f hg⟩

namespace Catalog

variable {hostFuncs : List HostFunc} {c : Catalog}

theorem wellDeclared_of_isRead {s : Script} (h : s.IsRead) : s.WellDeclared := by
  rcases h with ⟨c, setup, key, content, hread⟩
  rcases exists_source_of_read hread with ⟨text, -, hscript⟩
  exact Script.wellDeclared_of_ofSource hscript

/-- Loading changes no declaration. -/
theorem Reachable.wellDeclared (h : Reachable hostFuncs c) :
    ∀ e ∈ c.scripts, e.2.WellDeclared := by
  intro e he
  show e.2.unloaded.WellDeclared
  exact wellDeclared_of_isRead (h.isRead e he)

/-! ## The conclusion -/

/-- A declaration that passes the other checks is accepted exactly if its parameters keep the rules;
otherwise it is refused for the first one that repeats a name, or if none does, for the first one
that breaks another rule. So in every catalog that a host can come to, every function of a script
that is known has its required parameters first, takes at least as many arguments, and at most as
many as it has parameters. -/
theorem params_decided :
    (∀ (ctx : ScanContext) (o : Outline) (l : LogicalLine) (hd : FuncHeader) (ps : List Param),
      LineRule.classify l.text = some (.func hd) → o.open? = none →
      isReservedName hd.name = false → o.priorDeclaration? ctx hd.name.key = none →
      ctx.parseParams hd.params = .ok ps →
        ((∃ o', Outline.step ctx o l = .ok o') ↔ Param.WellFormed ps) ∧
        ∀ f, Outline.step ctx o l = .error f ↔
          ∃ cause, f = ⟨cause, l.span⟩ ∧
            (FirstAt Param.Repeats ps cause ∨
              (ps.Pairwise fun p q => p.var.same q.var = false) ∧
                FirstAt Param.Breaks ps cause)) ∧
      ∀ hostFuncs c, Reachable hostFuncs c → ∀ e ∈ c.scripts, ∀ g ∈ e.2.functions.funcs,
        ∃ f required optional, g = .declared f ∧ f.params = required ++ optional ∧
          (∀ p ∈ required, p.isOptional = false) ∧ (∀ p ∈ optional, p.isOptional = true) ∧
          g.arity.min = required.length ∧ g.arity.max = f.params.length := by
  constructor
  · intro ctx o l hd ps hc hopen hname hfree hparams
    exact ⟨Outline.step_declared_ok_iff hc hopen hname hfree hparams,
      fun f => Outline.step_declared_error_iff hc hopen hname hfree hparams⟩
  · intro hostFuncs c hreach e he g hg
    obtain ⟨f, rfl, hwell⟩ := hreach.wellDeclared e he g hg
    obtain ⟨required, optional, hparams, hrequired, hoptional⟩ := hwell.exists_split
    obtain ⟨hmin, hmax⟩ := Arity.ofParams_split hrequired hoptional
    rw [← hparams] at hmin hmax
    exact ⟨f, required, optional, rfl, hparams, hrequired, hoptional, hmin, hmax⟩

/-- A call that scans a script with a function of a required and an optional parameter. -/
def optionalParamCall : Call :=
  ⟨{ options := { includeDir := ⟨['/']⟩ } }, .empty [],
    .process ⟨⟨"http://a/a.au3".toList⟩, "func f($a, $b = 1)\nendfunc".toList⟩⟩

/-- A name that is repeated behind a default that is missing, and a function with a parameter of
each kind. -/
theorem params_decided_sample :
    Outline.step ((initial []).context optionalParamCall.setup) (.empty ⟨['a']⟩)
        ⟨"func f($a = 1, $b, $A)".toList, .line ['a'] 1⟩ =
      .error ⟨.duplicateParam ⟨['A']⟩, .line ['a'] 1⟩ ∧
    (((initial []).serve optionalParamCall).1.scripts.map fun e =>
        e.2.functions.funcs.map fun g => (g.name, g.arity.min, g.arity.max)) =
      [[(['f'], 1, 2), (mainName, 0, 0)]] ∧
    ∀ e ∈ ((initial []).serve optionalParamCall).1.scripts, ∀ g ∈ e.2.functions.funcs,
      ∃ f required optional, g = .declared f ∧ f.params = required ++ optional ∧
        (∀ p ∈ required, p.isOptional = false) ∧ (∀ p ∈ optional, p.isOptional = true) ∧
        g.arity.min = required.length ∧ g.arity.max = f.params.length := by
  refine ⟨?_, by decide +kernel, params_decided.2 [] _ (.serve .initial optionalParamCall)⟩
  have hc : LineRule.classify "func f($a = 1, $b, $A)".toList =
      some (.func ⟨false, ['f'], "$a = 1, $b, $A".toList⟩) := by
    decide +kernel
  have hparams : ((initial []).context optionalParamCall.setup).parseParams
      "$a = 1, $b, $A".toList =
        .ok [{ var := ⟨['a']⟩, default? := some ['1'] }, { var := ⟨['b']⟩ },
          { var := ⟨['A']⟩ }] := by
    decide +kernel
  have hname : isReservedName ['f'] = false := by decide +kernel
  have hfree : (Outline.empty ⟨['a']⟩).priorDeclaration?
      ((initial []).context optionalParamCall.setup) (Text.key ['f']) = none := by
    decide +kernel
  refine ((params_decided.1 _ _ _ _ _ hc rfl hname hfree hparams).2 _).2
    ⟨.duplicateParam ⟨['A']⟩, rfl, ?_⟩
  rw [Param.distinct_iff]
  exact Param.check_eq_some_iff.1 (by decide +kernel)

end Catalog

end ScriptScan
