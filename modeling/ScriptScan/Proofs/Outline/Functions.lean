import ScriptScan.Proofs.FuncTable
import ScriptScan.Proofs.Line.Rule
import ScriptScan.Proofs.Outline.Step

/-!
# The functions of an outline

Lines and labels come and go into a function without touching how it was declared, and functions are
only ever added. So the declarations of an outline, in source order and stripped of all lines
(`Outline.signatures`), either stay as they are or grow by one (`Step.signatures_cases`), and
everything about names follows from those two cases:

* `Outline.Declares` is the invariant: functions are kept under their own keys, belong to the
  script, have names, have different keys, and each found its key free when it was declared;
* `Script.ofSource_holds` says what that makes of a script that is read from a source;
* `Script.ofSource_congr` says that reading depends on the functions of other scripts only through
  whether the keys that the script declares are free.
-/

namespace ScriptScan

/-! ## Declarations without lines -/

namespace FuncDecl

/-- The function as it was declared, without any lines. -/
def bare (f : FuncDecl) : FuncDecl :=
  { f with table := {}, labels := [] }

@[simp] theorem bare_name (f : FuncDecl) : f.bare.name = f.name := rfl

@[simp] theorem bare_script (f : FuncDecl) : f.bare.script = f.script := rfl

@[simp] theorem bare_addLine (f : FuncDecl) (l : LogicalLine) : (f.addLine l).bare = f.bare := rfl

@[simp] theorem bare_addLabel (f : FuncDecl) (name : Text) (span : Span) :
    (f.addLabel name span).bare = f.bare := rfl

@[simp] theorem bare_ofHeader (h : FuncHeader) (script : Path) (span : Span)
    (params : List Param) : (ofHeader h script span params).bare = ofHeader h script span params :=
  rfl

@[simp] theorem name_addLine (f : FuncDecl) (l : LogicalLine) : (f.addLine l).name = f.name := rfl

@[simp] theorem name_addLabel (f : FuncDecl) (name : Text) (span : Span) :
    (f.addLabel name span).name = f.name := rfl

end FuncDecl

/-! ## Free keys -/

/-- Whether a key is free for the script under a path: if a known function has it, that function was
declared in this very script. -/
def FreeFor (known : Text → Option Func) (path : Path) (key : Text) : Prop :=
  ∀ g, known key = some g → ∃ f, g = .declared f ∧ f.script.same path = true

namespace Outline

variable {ctx : ScanContext} {o o' : Outline} {l : LogicalLine}

/-- A name is not taken if no ended function has its key and the key is free. -/
theorem priorDeclaration?_eq_none_iff {key : Text} :
    o.priorDeclaration? ctx key = none ↔
      o.closed.lookup key = none ∧ FreeFor ctx.known o.path key := by
  unfold priorDeclaration? FreeFor
  cases hc : o.closed.lookup key with
  | some f => simp
  | none =>
    cases hk : ctx.known key with
    | none => simp
    | some g =>
      cases g with
      | host f => simp
      | declared f => simp

/-- A name is taken by an ended function, or else by a known function that does not leave its key
free. -/
theorem priorDeclaration?_eq_some {key : Text} {prior : Span}
    (h : o.priorDeclaration? ctx key = some prior) :
    (∃ g, o.closed.lookup key = some g ∧ prior = g.declaredAt) ∨
      (o.closed.lookup key = none ∧ ∃ g, ctx.known key = some g ∧ prior = g.span) := by
  unfold priorDeclaration? at h
  cases hc : o.closed.lookup key with
  | some f =>
    rw [hc] at h
    exact .inl ⟨f, rfl, (Option.some.inj h).symm⟩
  | none =>
    rw [hc] at h
    refine .inr ⟨rfl, ?_⟩
    cases hk : ctx.known key with
    | none =>
      rw [hk] at h
      cases h
    | some g =>
      rw [hk] at h
      cases g with
      | host f => exact ⟨.host f, rfl, (Option.some.inj h).symm⟩
      | declared f =>
        cases hsame : f.script.same o.path with
        | true => simp [hsame] at h
        | false =>
          simp only [hsame, Bool.false_eq_true, if_false] at h
          exact ⟨.declared f, rfl, (Option.some.inj h).symm⟩

/-- All declarations of an outline in source order, without their lines. -/
def signatures (o : Outline) : List FuncDecl :=
  o.closed.map (·.2.bare) ++ (o.open?.map (·.bare)).toList

theorem signatures_setCurrent {g : FuncDecl} (h : g.bare = o.current.bare) :
    (o.setCurrent g).signatures = o.signatures := by
  unfold setCurrent current at *
  cases hopen : o.open? with
  | none => simp [signatures, hopen]
  | some f =>
    rw [hopen] at h
    simp only [Option.getD_some] at h
    simp [signatures, hopen, h]

/-- The two things that a step does to the declarations. -/
theorem Step.signatures_cases (hs : Step ctx o l o') :
    o'.signatures = o.signatures ∨
      ∃ h params, LineRule.classify l.text = some (.func h) ∧
        o.open? = none ∧ o.priorDeclaration? ctx h.name.key = none ∧
        o'.signatures = o.signatures ++ [.ofHeader h o.path l.span params] := by
  cases hs with
  | body hc => exact .inl (signatures_setCurrent rfl)
  | includeOnce hc => exact .inl rfl
  | startupHook func hc => exact .inl rfl
  | exitHook func hc => exact .inl rfl
  | pragma d hc hd => exact .inl rfl
  | beginFunc h params hc hopen hname hfree hparams hcheck =>
    refine .inr ⟨h, params, hc, hopen, hfree, ?_⟩
    simp [signatures, hopen]
  | endFunc f hc hopen => exact .inl (by simp [signatures, hopen])
  | label name hc hstrict hnew => exact .inl (signatures_setCurrent rfl)

theorem Step.path_eq (hs : Step ctx o l o') : o'.path = o.path := by
  cases hs <;> simp

theorem Step.main_eq (hs : Step ctx o l o') : o'.main.bare = o.main.bare := by
  have hset : ∀ g : FuncDecl, g.bare = o.current.bare →
      (o.setCurrent g).main.bare = o.main.bare := by
    intro g hg
    unfold setCurrent current at *
    split
    · rfl
    · rename_i hopen
      simpa [hopen] using hg
  cases hs with
  | body hc => exact hset _ rfl
  | label name hc hstrict hnew => exact hset _ rfl
  | includeOnce hc => rfl
  | startupHook func hc => rfl
  | exitHook func hc => rfl
  | pragma d hc hd => rfl
  | beginFunc h params hc hopen hname hfree hparams hcheck => rfl
  | endFunc f hc hopen => rfl

/-! ## The invariant -/

/-- What holds of the functions of an outline at every line. -/
structure Declares (ctx : ScanContext) (path : Path) (o : Outline) : Prop where
  path_eq : o.path = path
  main_eq : o.main.bare = .main path
  keyed : ∀ e ∈ o.closed, e.1 = e.2.name.key
  owned : ∀ f ∈ o.signatures, f.script = path
  named : ∀ f ∈ o.signatures, f.name.IsName
  free : ∀ f ∈ o.signatures, FreeFor ctx.known path f.name.key
  nodup : (o.signatures.map (·.name.key)).Nodup

theorem declares_empty (path : Path) : Declares ctx path (empty path) :=
  ⟨rfl, rfl, by simp [empty], by simp [signatures, empty], by simp [signatures, empty],
    by simp [signatures, empty], by simp [signatures, empty]⟩

theorem Step.keyed (hs : Step ctx o l o') (h : ∀ e ∈ o.closed, e.1 = e.2.name.key) :
    ∀ e ∈ o'.closed, e.1 = e.2.name.key := by
  cases hs with
  | endFunc f hc hopen =>
    intro e he
    rcases List.mem_append.1 he with he | he
    · exact h e he
    · rw [List.mem_singleton.1 he]
  | body hc => simpa using h
  | label name hc hstrict hnew => simpa using h
  | includeOnce hc => exact h
  | startupHook func hc => exact h
  | exitHook func hc => exact h
  | pragma d hc hd => exact h
  | beginFunc h' params hc hopen hname hfree hparams hcheck => exact h

/-- While no function is open, the key of every declaration is that of an ended function. -/
theorem key_mem_closed (hopen : o.open? = none) (h : ∀ e ∈ o.closed, e.1 = e.2.name.key)
    {key : Text} (hkey : key ∈ o.signatures.map (·.name.key)) : key ∈ o.closed.map (·.1) := by
  simp only [signatures, hopen, Option.map_none, Option.toList_none, List.append_nil,
    List.map_map] at hkey
  rcases List.mem_map.1 hkey with ⟨e, he, rfl⟩
  exact List.mem_map.2 ⟨e, he, h e he⟩

theorem Step.declares {path : Path} (hs : Step ctx o l o') (h : Declares ctx path o) :
    Declares ctx path o' := by
  have hkeyed := hs.keyed h.keyed
  have hpath := hs.path_eq.trans h.path_eq
  have hmain := hs.main_eq.trans h.main_eq
  rcases hs.signatures_cases with hsig | ⟨hd, params, hc, hopen, hprior, hsig⟩
  · -- no declaration is added
    exact ⟨hpath, hmain, hkeyed, hsig ▸ h.owned, hsig ▸ h.named, hsig ▸ h.free, hsig ▸ h.nodup⟩
  · -- one is added, under a key that was found free
    rcases priorDeclaration?_eq_none_iff.1 hprior with ⟨hlookup, hfree⟩
    have hname := LineRule.isName_of_classify hc
    rw [h.path_eq] at hfree hsig
    refine ⟨hpath, hmain, hkeyed, ?_, ?_, ?_, ?_⟩
    · rw [hsig]
      exact List.forall_mem_append.2 ⟨h.owned, by simp [FuncDecl.ofHeader]⟩
    · rw [hsig]
      exact List.forall_mem_append.2 ⟨h.named, by simpa [FuncDecl.ofHeader] using hname⟩
    · rw [hsig]
      exact List.forall_mem_append.2 ⟨h.free, by simpa [FuncDecl.ofHeader] using hfree⟩
    · rw [hsig, List.map_append, List.nodup_append]
      refine ⟨h.nodup, by simp, ?_⟩
      intro key hkey key' hkey' heq
      rw [List.map_singleton, List.mem_singleton] at hkey'
      -- the key would be that of an ended function, and the name was found free of those
      have hmem := key_mem_closed hopen h.keyed hkey
      rw [List.lookup_eq_none_iff] at hlookup
      rcases List.mem_map.1 hmem with ⟨e, he, hek⟩
      have hne := hlookup e he
      rw [bne_iff_ne] at hne
      exact hne (by rw [hek, heq, hkey']; rfl)

theorem declares_of_run {path : Path} {ls : List LogicalLine}
    (h : run ctx (empty path) ls = .ok o) : Declares ctx path o :=
  run_induction (P := fun _ o => Declares ctx path o) (fun h hs => hs.declares h)
    (declares_empty path) h

/-! ## Names that are taken -/

namespace Declares

variable {path : Path}

theorem closed_nodup (h : Declares ctx path o) : (o.closed.map (·.1)).Nodup := by
  have hkeys : o.closed.map (·.1) = (o.closed.map (·.2.bare)).map (·.name.key) := by
    rw [List.map_map]
    exact List.map_congr_left h.keyed
  have hnodup := h.nodup
  rw [signatures, List.map_append] at hnodup
  rw [hkeys]
  exact (List.nodup_append.1 hnodup).1

/-- The name of an ended function is taken by that function. -/
theorem prior_of_closed (h : Declares ctx path o) {e : Text × FuncDecl} (he : e ∈ o.closed)
    {prior : Span} (hprior : o.priorDeclaration? ctx e.1 = some prior) :
    prior = e.2.declaredAt := by
  have hlookup : o.closed.lookup e.1 = some e.2 :=
    (FuncTable.lookup_eq_some_iff_mem h.closed_nodup).2 he
  simp only [priorDeclaration?, hlookup, Option.some.injEq] at hprior
  exact hprior.symm

/-- The name of a known function of another script is taken by that function: no ended function can
have its key. -/
theorem prior_of_known (h : Declares ctx path o) {key : Text} {g : Func}
    (hknown : ctx.known key = some g)
    (hother : ∀ f, g = .declared f → f.script.same path = false) {prior : Span}
    (hprior : o.priorDeclaration? ctx key = some prior) : prior = g.span := by
  rcases priorDeclaration?_eq_some hprior with ⟨f, hf, -⟩ | ⟨-, g', hg', rfl⟩
  · have hmem := (FuncTable.lookup_eq_some_iff_mem h.closed_nodup).1 hf
    have hkey : key = f.name.key := h.keyed _ hmem
    have hfree := h.free f.bare (List.mem_append_left _ (List.mem_map_of_mem hmem))
    rw [hkey] at hknown
    rcases hfree g hknown with ⟨f', rfl, hsame⟩
    rw [hother f' rfl] at hsame
    cases hsame
  · rw [hknown] at hg'
    cases hg'
    rfl

end Declares

/-! ## Reading with other known functions -/

theorem Step.signatures_subset (hs : Step ctx o l o') : o.signatures ⊆ o'.signatures := by
  rcases hs.signatures_cases with hsig | ⟨h, params, _, _, _, hsig⟩
  · rw [hsig]
    exact List.Subset.refl _
  · rw [hsig]
    exact List.subset_append_left _ _

theorem signatures_subset_of_run {ls : List LogicalLine} (h : run ctx o ls = .ok o') :
    o.signatures ⊆ o'.signatures :=
  run_induction (P := fun _ o₁ => o.signatures ⊆ o₁.signatures)
    (fun h hs _ hf => hs.signatures_subset (h hf)) (List.Subset.refl _) h

/-- A step is the same with other known functions, if they leave free what is declared. -/
theorem Step.withKnown (hs : Step ctx o l o') {known : Text → Option Func}
    (h : ∀ f ∈ o'.signatures, FreeFor known o.path f.name.key) :
    Step { ctx with known } o l o' := by
  cases hs with
  | body hc => exact .body hc
  | includeOnce hc => exact .includeOnce hc
  | startupHook func hc => exact .startupHook func hc
  | exitHook func hc => exact .exitHook func hc
  | pragma d hc hd => exact .pragma d hc hd
  | beginFunc hd params hc hopen hname hprior hparams hcheck =>
    -- the one step that asks for the known functions
    have hlookup := (priorDeclaration?_eq_none_iff.1 hprior).1
    have hfree : FreeFor known o.path hd.name.key :=
      h (.ofHeader hd o.path l.span params) (by simp [signatures])
    exact .beginFunc hd params hc hopen hname (priorDeclaration?_eq_none_iff.2 ⟨hlookup, hfree⟩)
      hparams hcheck
  | endFunc f hc hopen => exact .endFunc f hc hopen
  | label name hc hstrict hnew => exact .label name hc hstrict hnew

theorem run_withKnown {known : Text → Option Func} {ls : List LogicalLine}
    (hrun : run ctx o ls = .ok o')
    (h : ∀ f ∈ o'.signatures, FreeFor known o.path f.name.key) :
    run { ctx with known } o ls = .ok o' := by
  induction ls generalizing o with
  | nil => exact hrun
  | cons l ls ih =>
    rcases run_cons_eq_ok hrun with ⟨o₁, hs, hrest⟩
    have hsub := signatures_subset_of_run hrest
    rw [run_cons_of_step (hs.withKnown fun f hf => h f (hsub hf))]
    exact ih hrest (by rwa [hs.path_eq])

end Outline

/-! ## The functions of a script -/

namespace Script

/-- What the functions of a script are: first `decls`, then `main`, each under its own key. -/
structure Holds (s : Script) (path : Path) (decls : List FuncDecl) (main : FuncDecl) : Prop where
  path_eq : s.path = path
  functions_eq : s.functions = (decls ++ [main]).map fun f => (f.name.key, .declared f)
  main_eq : main.bare = .main path
  owned : ∀ f ∈ decls, f.script = path
  named : ∀ f ∈ decls, f.name.IsName
  nodup : (decls.map (·.name.key)).Nodup

variable {ctx : ScanContext} {path : Path} {source : LogicalSource} {s : Script}

namespace Holds

variable {decls : List FuncDecl} {main : FuncDecl}

theorem main_name (h : s.Holds path decls main) : main.name = mainName :=
  congrArg FuncDecl.name h.main_eq

theorem main_script (h : s.Holds path decls main) : main.script = path :=
  congrArg FuncDecl.script h.main_eq

theorem funcs_eq (h : s.Holds path decls main) :
    s.functions.funcs = (decls ++ [main]).map .declared := by
  rw [h.functions_eq, FuncTable.funcs, List.map_map]
  rfl

/-- The public functions are those that are declared in the source. -/
theorem publicFuncs_eq (h : s.Holds path decls main) : s.publicFuncs = decls.map .declared := by
  have hdecls : ∀ g ∈ decls.map Func.declared, (!g.isMain) = true := by
    intro g hg
    rcases List.mem_map.1 hg with ⟨f, hf, rfl⟩
    have hname : (Func.declared f).isMain = false := (h.named f hf).isMainName_eq_false
    rw [hname]
    rfl
  have hmain : (Func.declared main).isMain = true := by
    rw [Func.isMain, Func.name, h.main_name]
    rfl
  rw [publicFuncs, h.funcs_eq, List.map_append, List.filter_append, List.filter_eq_self.2 hdecls]
  simp [hmain]

/-- Different functions of a script have different keys. -/
theorem keys_nodup (h : s.Holds path decls main) : (s.functions.map (·.1)).Nodup := by
  rw [h.functions_eq, List.map_map, List.map_append, List.nodup_append]
  refine ⟨h.nodup, by simp, ?_⟩
  intro key hkey key' hkey' heq
  rcases List.mem_map.1 hkey with ⟨f, hf, rfl⟩
  rw [List.map_singleton, List.mem_singleton] at hkey'
  rw [hkey'] at heq
  have hmain : f.name.key = mainName.key := by
    rw [← h.main_name]
    exact heq
  exact (h.named f hf).key_ne_main hmain

end Holds

theorem ofSource_eq_ok_iff :
    ofSource ctx path source = .ok s ↔
      ∃ o, Outline.run ctx (.empty path) source.lines = .ok o ∧ o.open? = none ∧
        s = .make o.path o.functions o.startup o.exit o.includeOnce := by
  unfold ofSource Outline.finish
  constructor
  · intro h
    split at h
    · simp at h
    · rename_i o hrun
      split at h
      · simp at h
      · rename_i hopen
        exact ⟨o, hrun, hopen, (Except.ok.inj h).symm⟩
  · rintro ⟨o, hrun, hopen, rfl⟩
    simp [hrun, hopen]

/-- The table of an outline whose functions are kept under their own keys. -/
theorem functions_of_keyed {o : Outline} (h : ∀ e ∈ o.closed, e.1 = e.2.name.key) :
    o.functions = (o.closed.map (·.2) ++ [o.main]).map fun f => (f.name.key, Func.declared f) := by
  have hclosed : ∀ e ∈ o.closed, (e.1, Func.declared e.2) = (e.2.name.key, Func.declared e.2) := by
    intro e he
    rw [h e he]
  simp only [Outline.functions, List.map_append, List.map_map, List.map_singleton]
  rw [List.map_congr_left hclosed]
  rfl

/-- A script that is made of an outline holds the functions of the outline. -/
theorem holds_make {o : Outline} (h : o.Declares ctx path) (hopen : o.open? = none) :
    (make o.path o.functions o.startup o.exit o.includeOnce).Holds path (o.closed.map (·.2))
      o.main := by
  have hsig : o.signatures = o.closed.map (·.2.bare) := by simp [Outline.signatures, hopen]
  have hmem : ∀ f ∈ o.closed.map (·.2), f.bare ∈ o.signatures := by
    intro f hf
    rcases List.mem_map.1 hf with ⟨e, he, rfl⟩
    rw [hsig]
    exact List.mem_map_of_mem he
  have hmain : o.main.name = mainName := congrArg FuncDecl.name h.main_eq
  -- the main function is in the table already, so none is added
  have htaken : (o.functions.lookup (Func.declared (.main o.path)).key).isSome := by
    rw [List.lookup_isSome_iff]
    refine ⟨(o.main.name.key, .declared o.main), ?_, ?_⟩
    · rw [functions_of_keyed h.keyed]
      simp
    · rw [hmain, beq_iff_eq]
      rfl
  refine ⟨h.path_eq, ?_, h.main_eq, ?_, ?_, ?_⟩
  · rw [make, FuncTable.insertNew, if_pos htaken]
    exact functions_of_keyed h.keyed
  · exact fun f hf => h.owned f.bare (hmem f hf)
  · exact fun f hf => h.named f.bare (hmem f hf)
  · have hnodup := h.nodup
    rw [hsig, List.map_map] at hnodup
    rw [List.map_map]
    exact hnodup

/-- What a script holds that is read from a source, and that its keys were free. -/
theorem ofSource_holds (h : ofSource ctx path source = .ok s) :
    ∃ decls main, s.Holds path decls main ∧ ∀ f ∈ decls, FreeFor ctx.known path f.name.key := by
  rcases ofSource_eq_ok_iff.1 h with ⟨o, hrun, hopen, rfl⟩
  have hd := Outline.declares_of_run hrun
  refine ⟨_, _, holds_make hd hopen, ?_⟩
  intro f hf
  rcases List.mem_map.1 hf with ⟨e, he, rfl⟩
  have hmem : e.2.bare ∈ o.signatures :=
    List.mem_append_left _ (List.mem_map_of_mem he)
  exact hd.free e.2.bare hmem

/-- A source gives the same script with other known functions, if they leave free what the script
declares. -/
theorem ofSource_congr {known : Text → Option Func} (h : ofSource ctx path source = .ok s)
    (hfree : ∀ g ∈ s.publicFuncs, FreeFor known path g.key) :
    ofSource { ctx with known } path source = .ok s := by
  rcases ofSource_eq_ok_iff.1 h with ⟨o, hrun, hopen, rfl⟩
  have hd := Outline.declares_of_run hrun
  have hpublic := (holds_make hd hopen).publicFuncs_eq
  refine ofSource_eq_ok_iff.2 ⟨o, Outline.run_withKnown hrun ?_, hopen, rfl⟩
  intro f hf
  simp only [Outline.signatures, hopen, Option.map_none, Option.toList_none, List.append_nil] at hf
  rcases List.mem_map.1 hf with ⟨e, he, rfl⟩
  refine hfree (.declared e.2) ?_
  rw [hpublic]
  exact List.mem_map_of_mem (List.mem_map_of_mem he)

end Script

end ScriptScan
