import Mathlib.Data.List.Forall2
import Mathlib.Data.List.Induction
import ScriptScan.Proofs.Outline.Hooks

/-!
# The life of a script

A script is loaded and unloaded in any order, each time with a frame that answers its calls as it
likes. Every such call brings the script into its state, whatever becomes of the hooks; and the
hooks run up to the first one that fails. What this means is said by the hooks and the frame alone:
the functions that are called are the longest list that the hooks allow for
(`Script.runnable_iff`), and the fault is that of the first hook that fails (`runHooks_fault_iff`).

* `Script.Obeys` — what one call does, behind some others.
* `Script.lifecycle` — that every call of every script does this.
-/

namespace ScriptScan

/-! ## Functions and frames -/

/-- Whether a function cannot be called without arguments. -/
def Func.RequiresArgument : Func → Prop
  | .declared f => ∃ p ∈ f.params, p.isOptional = false
  | .host f => 0 < f.arity.min

theorem Func.arity_min_pos_iff (f : Func) : 0 < f.arity.min ↔ f.RequiresArgument := by
  cases f with
  | declared f =>
    show 0 < f.params.countP (!·.isOptional) ↔ _
    rw [List.countP_pos_iff]
    simp [RequiresArgument]
  | host f => exact Iff.rfl

namespace CallFrame

variable {σ : Type}

/-- Calls some functions one after the other, none of them with an argument. The results, and the
memory afterwards. -/
def callAll (frame : CallFrame σ) (memory : σ) : List Func → List CallResult × σ
  | [] => ([], memory)
  | f :: fs =>
    let rest := frame.callAll (frame.call memory f []).2 fs
    ((frame.call memory f []).1 :: rest.1, rest.2)

/-- The frame that also writes down each function that it is asked to call, with the arguments. -/
def logged (frame : CallFrame σ) : CallFrame (σ × List (Func × List Value)) where
  call memory f args :=
    ((frame.call memory.1 f args).1, (frame.call memory.1 f args).2, memory.2 ++ [(f, args)])

end CallFrame

/-- The run of a frame that also writes down its calls. None of them has an argument. -/
def HookRun.logged {σ : Type} (run : HookRun σ) (log : List (Func × List Value)) :
    HookRun (σ × List (Func × List Value)) :=
  ⟨run.calls, run.fault?, run.memory, log ++ run.calls.map fun f => (f, [])⟩

/-- A call that brings a script into a state: the state, and the frame that the call gets. -/
structure Switch (σ : Type) where
  target : LoadState
  frame : CallFrame σ

/-- Whether a call came back, be it with an error of the script. -/
def CallResult.Returned (r : CallResult) : Prop :=
  r.fault? = none

namespace Script

/-! ## What hooks allow for -/

/-- Whether a hook names a function of the script that can be called without arguments. -/
structure Names (s : Script) (h : Hook) (f : Func) : Prop where
  lookup_eq : s.functions.lookup h.func = some f
  none_required : ¬f.RequiresArgument

section

variable {σ : Type} (s : Script) (frame : CallFrame σ) (memory : σ)

/-- Whether the hooks of a beginning of the list name some functions, and all calls of these but
perhaps the last one come back. -/
structure Runnable (hooks : List Hook) (fs : List Func) : Prop where
  named : ∃ pre, pre <+: hooks ∧ List.Forall₂ s.Names pre fs
  returned : ∀ r ∈ (frame.callAll memory fs).1.dropLast, r.Returned

/-- Whether some hooks name some functions, and all calls of these come back. -/
structure Succeeds (hooks : List Hook) (fs : List Func) : Prop where
  named : List.Forall₂ s.Names hooks fs
  returned : ∀ r ∈ (frame.callAll memory fs).1, r.Returned

/-- How a hook fails: it names no function of the script, it names one that requires an argument, or
the call is fatal. -/
inductive HookFails (h : Hook) : Fault → Prop where
  | unresolved (hnone : s.functions.lookup h.func = none) :
    HookFails h ⟨.unresolvedHook h.func, h.span⟩
  | arity {f : Func} (hlookup : s.functions.lookup h.func = some f) (hrequires : f.RequiresArgument) :
    HookFails h ⟨.hookArity f.name, f.span⟩
  | fatal {f : Func} {fault : Fault} (hnames : s.Names h f)
    (hfatal : (frame.call memory f []).1 = .fatal fault) : HookFails h fault

/-- Whether the first of some hooks that fails does so with a fault. -/
def FirstFails (hooks : List Hook) (fault : Fault) : Prop :=
  ∃ pre h post fs, hooks = pre ++ h :: post ∧ s.Succeeds frame memory pre fs ∧
    s.HookFails frame (frame.callAll memory fs).2 h fault

end

variable {σ : Type} {s : Script} {frame : CallFrame σ} {memory : σ} {h : Hook} {hs hooks : List Hook}
  {f g : Func} {fs : List Func} {fault : Fault}

theorem Names.unique (hf : s.Names h f) (hg : s.Names h g) : f = g := by
  have heq := hf.lookup_eq.symm.trans hg.lookup_eq
  exact Option.some.inj heq

theorem runnable_nil : s.Runnable frame memory hooks [] := by
  constructor
  · exact ⟨[], List.nil_prefix, .nil⟩
  · intro r hr
    cases hr

theorem not_runnable_nil : ¬s.Runnable frame memory [] (f :: fs) := by
  rintro ⟨⟨pre, hpre, hnamed⟩, -⟩
  rw [List.prefix_nil.1 hpre] at hnamed
  cases hnamed

/-- A call has to come back only if there is another one behind it. -/
theorem runnable_cons_iff :
    s.Runnable frame memory (h :: hs) (f :: fs) ↔
      s.Names h f ∧ (fs ≠ [] → (frame.call memory f []).1.Returned) ∧
        s.Runnable frame (frame.call memory f []).2 hs fs := by
  constructor
  · rintro ⟨⟨pre, hpre, hnamed⟩, hreturned⟩
    rcases List.forall₂_cons_right_iff.1 hnamed with ⟨h', pre, hnames, hrest', rfl⟩
    rcases List.cons_prefix_cons.1 hpre with ⟨rfl, htail⟩
    cases fs with
    | nil => exact ⟨hnames, fun hne => absurd rfl hne, runnable_nil⟩
    | cons g fs =>
      rcases List.forall_mem_cons.1 hreturned with ⟨hreturned, hrest⟩
      exact ⟨hnames, fun _ => hreturned, ⟨pre, htail, hrest'⟩, hrest⟩
  · rintro ⟨hnames, hreturned, ⟨⟨pre, hpre, hnamed⟩, hrest⟩⟩
    refine ⟨⟨h :: pre, List.cons_prefix_cons.2 ⟨rfl, hpre⟩, .cons hnames hnamed⟩, ?_⟩
    cases fs with
    | nil =>
      intro r hr
      cases hr
    | cons g fs => exact List.forall_mem_cons.2 ⟨hreturned (List.cons_ne_nil g fs), hrest⟩

theorem succeeds_nil_iff : s.Succeeds frame memory [] fs ↔ fs = [] := by
  constructor
  · rintro ⟨hnamed, -⟩
    cases hnamed
    rfl
  · rintro rfl
    constructor
    · exact .nil
    · intro r hr
      cases hr

theorem succeeds_cons_iff :
    s.Succeeds frame memory (h :: hs) (f :: fs) ↔
      s.Names h f ∧ (frame.call memory f []).1.Returned ∧
        s.Succeeds frame (frame.call memory f []).2 hs fs := by
  constructor
  · rintro ⟨hnamed, hreturned⟩
    rcases List.forall₂_cons.1 hnamed with ⟨hnames, hnamed⟩
    rcases List.forall_mem_cons.1 hreturned with ⟨hreturned, hrest⟩
    exact ⟨hnames, hreturned, hnamed, hrest⟩
  · rintro ⟨hnames, hreturned, hnamed, hrest⟩
    exact ⟨.cons hnames hnamed, List.forall_mem_cons.2 ⟨hreturned, hrest⟩⟩

theorem not_firstFails_nil : ¬s.FirstFails frame memory [] fault := by
  rintro ⟨pre, h, post, fs, heq, -⟩
  simp at heq

theorem firstFails_cons_iff :
    s.FirstFails frame memory (h :: hs) fault ↔
      s.HookFails frame memory h fault ∨
        ∃ f, s.Names h f ∧ (frame.call memory f []).1.Returned ∧
          s.FirstFails frame (frame.call memory f []).2 hs fault := by
  constructor
  · rintro ⟨pre, h', post, fs, heq, hsucceeds, hfails⟩
    cases pre with
    | nil =>
      rcases List.cons.inj heq with ⟨rfl, rfl⟩
      rw [succeeds_nil_iff] at hsucceeds
      subst hsucceeds
      exact .inl hfails
    | cons h'' pre =>
      rcases List.cons.inj heq with ⟨rfl, rfl⟩
      cases fs with
      | nil => cases hsucceeds.named
      | cons f fs =>
        rcases succeeds_cons_iff.1 hsucceeds with ⟨hnames, hreturned, hrest⟩
        exact .inr ⟨f, hnames, hreturned, pre, h', post, fs, rfl, hrest, hfails⟩
  · rintro (hfails | ⟨f, hnames, hreturned, pre, h', post, fs, rfl, hsucceeds, hfails⟩)
    · exact ⟨[], h, hs, [], rfl, succeeds_nil_iff.2 rfl, hfails⟩
    · exact ⟨h :: pre, h', post, f :: fs, rfl,
        succeeds_cons_iff.2 ⟨hnames, hreturned, hsucceeds⟩, hfails⟩

/-! ## Running hooks -/

/-- A hook fails in one way. -/
theorem HookFails.unique {fault' : Fault} (hfails : s.HookFails frame memory h fault)
    (hfails' : s.HookFails frame memory h fault') : fault = fault' := by
  cases hfails with
  | unresolved hnone =>
    cases hfails' with
    | unresolved hnone' => rfl
    | arity hlookup hrequires => cases hnone.symm.trans hlookup
    | fatal hnames hfatal => cases hnone.symm.trans hnames.lookup_eq
  | arity hlookup hrequires =>
    cases hfails' with
    | unresolved hnone => cases hnone.symm.trans hlookup
    | arity hlookup' hrequires' =>
      cases hlookup.symm.trans hlookup'
      rfl
    | fatal hnames hfatal =>
      cases hlookup.symm.trans hnames.lookup_eq
      exact absurd hrequires hnames.none_required
  | fatal hnames hfatal =>
    cases hfails' with
    | unresolved hnone => cases hnone.symm.trans hnames.lookup_eq
    | arity hlookup hrequires =>
      cases hlookup.symm.trans hnames.lookup_eq
      exact absurd hrequires hnames.none_required
    | fatal hnames' hfatal' =>
      cases hnames.unique hnames'
      exact CallResult.fatal.inj (hfatal.symm.trans hfatal')

/-- Running the first of some hooks: it is refused, its call is fatal, or its call comes back and the
others run. -/
theorem runHooks_cons_cases (s : Script) (frame : CallFrame σ) (memory : σ) (h : Hook)
    (hs : List Hook) :
    (∃ fault, s.HookFails frame memory h fault ∧ (∀ f, ¬s.Names h f) ∧
        s.runHooks frame memory (h :: hs) = ⟨[], some fault, memory⟩) ∨
      (∃ f fault, s.HookFails frame memory h fault ∧ s.Names h f ∧
        (frame.call memory f []).1 = .fatal fault ∧
        s.runHooks frame memory (h :: hs) = ⟨[f], some fault, (frame.call memory f []).2⟩) ∨
      ∃ f, s.Names h f ∧ (frame.call memory f []).1.Returned ∧
        s.runHooks frame memory (h :: hs) =
          { s.runHooks frame (frame.call memory f []).2 hs with
            calls := f :: (s.runHooks frame (frame.call memory f []).2 hs).calls } := by
  cases hlookup : s.functions.lookup h.func with
  | none =>
    left
    refine ⟨_, .unresolved hlookup, ?_, ?_⟩
    · intro f hnames
      cases hlookup.symm.trans hnames.lookup_eq
    · simp [runHooks, hookTarget, hlookup]
  | some f =>
    by_cases hrequires : 0 < f.arity.min
    · left
      refine ⟨_, .arity hlookup (f.arity_min_pos_iff.1 hrequires), ?_, ?_⟩
      · intro g hnames
        cases hlookup.symm.trans hnames.lookup_eq
        exact hnames.none_required (f.arity_min_pos_iff.1 hrequires)
      · simp [runHooks, hookTarget, hlookup, hrequires]
    · right
      have hnames : s.Names h f := ⟨hlookup, fun hf => hrequires (f.arity_min_pos_iff.2 hf)⟩
      rcases hcall : frame.call memory f [] with ⟨result, memory'⟩
      cases result with
      | fatal fault =>
        left
        refine ⟨f, fault, .fatal hnames (by rw [hcall]), hnames, by rw [hcall], ?_⟩
        simp [runHooks, hookTarget, hlookup, hrequires, hcall]
      | success value extended? =>
        right
        refine ⟨f, hnames, by rw [hcall]; rfl, ?_⟩
        simp [runHooks, hookTarget, hlookup, hrequires, hcall]
      | failure value code extended? =>
        right
        refine ⟨f, hnames, by rw [hcall]; rfl, ?_⟩
        simp [runHooks, hookTarget, hlookup, hrequires, hcall]

/-- The functions that are called are the longest list that the hooks allow for. -/
theorem runnable_iff :
    s.Runnable frame memory hooks fs ↔ fs <+: (s.runHooks frame memory hooks).calls := by
  induction hooks generalizing memory fs with
  | nil =>
    cases fs with
    | nil => exact iff_of_true runnable_nil List.nil_prefix
    | cons f fs => exact iff_of_false not_runnable_nil (by simp [runHooks])
  | cons h hs ih =>
    cases fs with
    | nil => exact iff_of_true runnable_nil List.nil_prefix
    | cons f fs =>
      rw [runnable_cons_iff]
      rcases s.runHooks_cons_cases frame memory h hs with ⟨fault, -, hnone, hrun⟩ |
        ⟨g, fault, -, hg, hfatal, hrun⟩ | ⟨g, hg, hreturned, hrun⟩
      · rw [hrun]
        exact iff_of_false (fun hf => hnone f hf.1) (by simp)
      · -- behind a fatal call there can be no other
        rw [hrun, List.cons_prefix_cons, List.prefix_nil]
        constructor
        · rintro ⟨hf, hreturned, -⟩
          cases hf.unique hg
          refine ⟨rfl, ?_⟩
          by_contra hne
          have hfault := hreturned hne
          rw [hfatal] at hfault
          cases hfault
        · rintro ⟨rfl, rfl⟩
          exact ⟨hg, fun hne => absurd rfl hne, runnable_nil⟩
      · rw [hrun, List.cons_prefix_cons]
        constructor
        · rintro ⟨hf, -, hrest⟩
          cases hf.unique hg
          exact ⟨rfl, ih.1 hrest⟩
        · rintro ⟨rfl, hrest⟩
          exact ⟨hg, fun _ => hreturned, ih.2 hrest⟩

/-- What the frame remembers is that it was called for these functions without arguments. -/
theorem runHooks_memory :
    (s.runHooks frame memory hooks).memory =
      (frame.callAll memory (s.runHooks frame memory hooks).calls).2 := by
  induction hooks generalizing memory with
  | nil => rfl
  | cons h hs ih =>
    rcases s.runHooks_cons_cases frame memory h hs with ⟨fault, -, -, hrun⟩ |
      ⟨g, fault, -, -, -, hrun⟩ | ⟨g, -, -, hrun⟩
    · rw [hrun]
      rfl
    · rw [hrun]
      rfl
    · rw [hrun]
      exact ih

theorem not_hookFails (hf : s.Names h f) (hreturned : (frame.call memory f []).1.Returned) :
    ¬s.HookFails frame memory h fault := by
  intro hfails
  cases hfails with
  | unresolved hnone => cases hnone.symm.trans hf.lookup_eq
  | arity hlookup hrequires =>
    cases hlookup.symm.trans hf.lookup_eq
    exact hf.none_required hrequires
  | fatal hnames hfatal =>
    cases hf.unique hnames
    rw [hfatal] at hreturned
    cases hreturned

/-- If the first hook fails, there is no other fault. -/
theorem firstFails_of_hookFails {found : Fault} (hfails : s.HookFails frame memory h found) :
    s.FirstFails frame memory (h :: hs) fault ↔ found = fault := by
  rw [firstFails_cons_iff]
  constructor
  · rintro (hfails' | ⟨f, hf, hreturned, -⟩)
    · exact hfails.unique hfails'
    · exact absurd hfails (not_hookFails hf hreturned)
  · rintro rfl
    exact .inl hfails

/-- The fault is that of the first hook that fails. -/
theorem runHooks_fault_iff :
    (s.runHooks frame memory hooks).fault? = some fault ↔
      s.FirstFails frame memory hooks fault := by
  induction hooks generalizing memory with
  | nil =>
    refine iff_of_false ?_ not_firstFails_nil
    intro hfault
    cases hfault
  | cons h hs ih =>
    rcases s.runHooks_cons_cases frame memory h hs with ⟨found, hfails, -, hrun⟩ |
      ⟨g, found, hfails, -, -, hrun⟩ | ⟨g, hg, hreturned, hrun⟩
    · rw [hrun, firstFails_of_hookFails hfails, Option.some_inj]
    · rw [hrun, firstFails_of_hookFails hfails, Option.some_inj]
    · rw [hrun, ih, firstFails_cons_iff, or_iff_right (not_hookFails hg hreturned)]
      constructor
      · intro hrest
        exact ⟨g, hg, hreturned, hrest⟩
      · rintro ⟨f, hf, -, hrest⟩
        cases hf.unique hg
        exact hrest

/-- There is no fault if all hooks succeed. -/
theorem runHooks_done_iff :
    (s.runHooks frame memory hooks).fault? = none ↔
      s.Succeeds frame memory hooks (s.runHooks frame memory hooks).calls := by
  induction hooks generalizing memory with
  | nil => exact iff_of_true rfl (succeeds_nil_iff.2 rfl)
  | cons h hs ih =>
    rcases s.runHooks_cons_cases frame memory h hs with ⟨found, -, hnone, hrun⟩ |
      ⟨g, found, -, -, hfatal, hrun⟩ | ⟨g, hg, hreturned, hrun⟩
    · rw [hrun]
      refine iff_of_false (Option.some_ne_none found) ?_
      rintro ⟨hnamed, -⟩
      cases hnamed
    · rw [hrun]
      refine iff_of_false (Option.some_ne_none found) ?_
      intro hsucceeds
      have hreturned := (succeeds_cons_iff.1 hsucceeds).2.1
      rw [CallResult.Returned, hfatal] at hreturned
      cases hreturned
    · rw [hrun, succeeds_cons_iff, ih]
      exact ⟨fun hrest => ⟨hg, hreturned, hrest⟩, fun hall => hall.2.2⟩

/-- A frame that writes down its calls is called in the same way, and never with an argument. -/
theorem runHooks_logged (log : List (Func × List Value)) :
    s.runHooks frame.logged (memory, log) hooks =
      (s.runHooks frame memory hooks).logged log := by
  induction hooks generalizing memory log with
  | nil => simp [runHooks, HookRun.logged]
  | cons h hs ih =>
    cases htarget : s.hookTarget h with
    | error fault => simp [runHooks, htarget, HookRun.logged]
    | ok f =>
      rcases hcall : frame.call memory f [] with ⟨result, memory'⟩
      have hlogged : frame.logged.call (memory, log) f [] =
          (result, memory', log ++ [(f, [])]) := by
        simp [CallFrame.logged, hcall]
      cases result <;> simp [runHooks, htarget, hcall, hlogged, ih, HookRun.logged]

/-- What running some hooks does. -/
structure Ran (s : Script) (frame : CallFrame σ) (memory : σ) (hooks : List Hook)
    (run : HookRun σ) : Prop where
  runnable_iff : ∀ fs, s.Runnable frame memory hooks fs ↔ fs <+: run.calls
  memory_eq : run.memory = (frame.callAll memory run.calls).2
  none_required : ∀ f ∈ run.calls, ¬f.RequiresArgument
  fault_iff : ∀ fault, run.fault? = some fault ↔ s.FirstFails frame memory hooks fault
  done_iff : run.fault? = none ↔ s.Succeeds frame memory hooks run.calls

theorem none_required_of_named {pre : List Hook} (h : List.Forall₂ s.Names pre fs) :
    ∀ f ∈ fs, ¬f.RequiresArgument := by
  induction h with
  | nil => exact List.forall_mem_nil _
  | cons hnames _ ih => exact List.forall_mem_cons.2 ⟨hnames.none_required, ih⟩

theorem ran_runHooks (s : Script) (frame : CallFrame σ) (memory : σ) (hooks : List Hook) :
    s.Ran frame memory hooks (s.runHooks frame memory hooks) := by
  constructor
  case runnable_iff => exact fun fs => runnable_iff
  case memory_eq => exact runHooks_memory
  case none_required =>
    -- the functions that are called are among those that the hooks allow for
    rcases (runnable_iff.2 (List.prefix_refl _)).named with ⟨pre, -, hnamed⟩
    exact none_required_of_named hnamed
  case fault_iff => exact fun fault => runHooks_fault_iff
  case done_iff => exact runHooks_done_iff

/-! ## One call behind some others -/

/-- The script and the memory after one call. -/
def switch (s : Script × σ) (w : Switch σ) : Script × σ :=
  let result := s.1.transition w.frame s.2 w.target
  (result.1, result.2.memory)

/-- The script and the memory after some calls. -/
def after (s : Script) (memory : σ) (switches : List (Switch σ)) : Script × σ :=
  switches.foldl switch (s, memory)

/-- The state after some calls: the target of the last one. -/
def stateAfter (s : Script) (switches : List (Switch σ)) : LoadState :=
  (switches.getLast?.map (·.target)).getD s.state

/-- The script in another state. -/
def inState (s : Script) (state : LoadState) : Script :=
  { s with state }

/-- What one call does to a script that was in the state `was`: in any case the script comes into
the state asked for, and stays as it is otherwise. -/
structure Obeys (s : Script) (was : LoadState) (memory : σ) (w : Switch σ)
    (result : Script × HookRun σ) : Prop where
  script_eq : result.1 = s.inState w.target
  idle : was = w.target → result.2 = ⟨[], none, memory⟩
  ran : was ≠ w.target → s.Ran w.frame memory (s.hooksFor w.target) result.2

variable {state : LoadState} {w : Switch σ} {switches : List (Switch σ)}

/-- What hooks do does not depend on the state. -/
theorem runHooks_inState :
    (s.inState state).runHooks frame memory hooks = s.runHooks frame memory hooks := by
  have htarget : ∀ h, (s.inState state).hookTarget h = s.hookTarget h := fun _ => rfl
  induction hooks generalizing memory with
  | nil => rfl
  | cons h hs ih => simp only [runHooks, htarget, ih]

theorem hooksFor_inState (target : LoadState) :
    (s.inState state).hooksFor target = s.hooksFor target := by
  cases target <;> rfl

theorem transition_obeys (s : Script) (state : LoadState) (memory : σ) (w : Switch σ) :
    s.Obeys state memory w ((s.inState state).transition w.frame memory w.target) := by
  have hstate : (s.inState state).state = state := rfl
  rw [transition, hooksFor_inState, runHooks_inState, hstate]
  by_cases hsame : state = w.target
  · rw [if_pos hsame]
    constructor
    case script_eq => rw [hsame]
    case idle => exact fun _ => rfl
    case ran => exact fun hne => absurd hsame hne
  · rw [if_neg hsame]
    constructor
    case script_eq => rfl
    case idle => exact fun heq => absurd heq hsame
    case ran => exact fun _ => s.ran_runHooks w.frame memory _

/-- Calls change nothing but the state of a script. -/
theorem after_fst (s : Script) (memory : σ) (switches : List (Switch σ)) :
    (s.after memory switches).1 = s.inState (s.stateAfter switches) := by
  induction switches using List.reverseRecOn with
  | nil => rfl
  | append_singleton switches w ih =>
    have hstate : s.stateAfter (switches ++ [w]) = w.target := by
      simp [stateAfter]
    rw [after, List.foldl_append, List.foldl_cons, List.foldl_nil, ← after, switch, ih, hstate]
    exact (s.transition_obeys _ _ w).script_eq

/-- A frame that writes down its calls does not make a difference to the script. -/
theorem transition_logged (s : Script) (frame : CallFrame σ) (memory : σ) (target : LoadState)
    (log : List (Func × List Value)) :
    s.transition frame.logged (memory, log) target =
      ((s.transition frame memory target).1, (s.transition frame memory target).2.logged log) := by
  unfold transition
  split
  · simp [HookRun.logged]
  · rw [runHooks_logged]

/-- Behind any calls, the next one does what a call has to do, and no call of a function has an
argument. In a script that has been read from a source, the hooks are the directives of the source
in their order, and name the functions that have their keys. -/
theorem lifecycle (s : Script) (memory : σ) (before : List (Switch σ)) (next : Switch σ) :
    let found := s.after memory before
    let result := found.1.transition next.frame found.2 next.target
    s.Obeys (s.stateAfter before) found.2 next result ∧
      (∀ log, found.1.transition next.frame.logged (found.2, log) next.target =
        (result.1, result.2.logged log)) ∧
      ∀ ctx path source, ofSource ctx path source = .ok s →
        s.state = .unloaded ∧ (∀ target, s.hooksFor target = source.hooks target) ∧
          ∀ h f, s.Names h f ↔
            f ∈ s.functions.funcs ∧ f.key = h.func ∧ ¬f.RequiresArgument := by
  intro found result
  refine ⟨?_, ?_, ?_⟩
  · have hfound : found.1 = s.inState (s.stateAfter before) := s.after_fst memory before
    show s.Obeys _ _ _ (found.1.transition next.frame found.2 next.target)
    rw [hfound]
    exact s.transition_obeys _ _ next
  · intro log
    exact found.1.transition_logged next.frame found.2 next.target log
  · intro ctx path source hread
    refine ⟨ofSource_state hread, ofSource_hooks hread, ?_⟩
    intro h f
    rw [← and_assoc, ← lookup_eq_some_iff hread]
    constructor
    · intro hnames
      exact ⟨hnames.lookup_eq, hnames.none_required⟩
    · rintro ⟨hlookup, hnone⟩
      exact ⟨hlookup, hnone⟩

end Script

end ScriptScan
