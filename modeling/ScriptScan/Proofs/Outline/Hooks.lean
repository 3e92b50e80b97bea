import ScriptScan.Proofs.FuncTable
import ScriptScan.Proofs.Outline.Functions
import ScriptScan.Script.Lifecycle

/-!
# The hooks of a script

Each directive for a hook puts one hook at the end of its list, and no other line touches the lists.
So the lists of a script are the directives of its source in the order in which they stand
(`Script.ofSource_hooks`), and a hook finds the one function of the script that has its key
(`Script.lookup_eq_some_iff`).
-/

namespace ScriptScan

/-- The hook that a line registers for the way to a state. -/
def LogicalLine.hook? (target : LoadState) (l : LogicalLine) : Option Hook :=
  match target, LineRule.classify l.text with
  | .loaded, some (.startupHook func) => some ⟨func, l.span⟩
  | .unloaded, some (.exitHook func) => some ⟨func, l.span⟩
  | _, _ => none

/-- The hooks that a source registers for the way to a state, in the order of their lines. -/
def LogicalSource.hooks (source : LogicalSource) (target : LoadState) : List Hook :=
  source.lines.filterMap (·.hook? target)

namespace Outline

variable {ctx : ScanContext} {o o' : Outline} {l : LogicalLine} {ls : List LogicalLine}

/-- The hooks that are registered so far for the way to a state. -/
def hooks (o : Outline) : LoadState → List Hook
  | .loaded => o.startup
  | .unloaded => o.exit

@[simp] theorem hooks_setCurrent (f : FuncDecl) (target : LoadState) :
    (o.setCurrent f).hooks target = o.hooks target := by
  unfold setCurrent
  split <;> cases target <;> rfl

/-- A line that is no directive for a hook registers none. -/
theorem hook?_eq_none {target : LoadState}
    (h : ∀ func, LineRule.classify l.text ≠ some (.startupHook func) ∧
      LineRule.classify l.text ≠ some (.exitHook func)) : l.hook? target = none := by
  unfold LogicalLine.hook?
  split
  · rename_i func hc
    exact absurd hc (h func).1
  · rename_i func hc
    exact absurd hc (h func).2
  · rfl

theorem Step.hooks_eq (hs : Step ctx o l o') (target : LoadState) :
    o'.hooks target = o.hooks target ++ (l.hook? target).toList := by
  cases hs with
  | startupHook func hc => cases target <;> simp [hooks, LogicalLine.hook?, hc]
  | exitHook func hc => cases target <;> simp [hooks, LogicalLine.hook?, hc]
  | body hc =>
    rw [hooks_setCurrent, hook?_eq_none (by simp [hc]), Option.toList_none, List.append_nil]
  | label name hc hstrict hnew =>
    rw [hooks_setCurrent, hook?_eq_none (by simp [hc]), Option.toList_none, List.append_nil]
  | includeOnce hc =>
    rw [hook?_eq_none (by simp [hc]), Option.toList_none, List.append_nil]
    rfl
  | pragma d hc hd => rw [hook?_eq_none (by simp [hc]), Option.toList_none, List.append_nil]
  | beginFunc h params hc hopen hname hfree hparams hcheck =>
    rw [hook?_eq_none (by simp [hc]), Option.toList_none, List.append_nil]
    rfl
  | endFunc f hc hopen =>
    rw [hook?_eq_none (by simp [hc]), Option.toList_none, List.append_nil]
    rfl

/-- After a run the hooks are those of the lines that have been read. -/
theorem hooks_of_run {path : Path} (hrun : run ctx (empty path) ls = .ok o) (target : LoadState) :
    o.hooks target = ls.filterMap (·.hook? target) := by
  refine run_induction (P := fun pre o => o.hooks target = pre.filterMap (·.hook? target)) ?_ ?_
    hrun
  · intro pre o l o' h hs
    rw [hs.hooks_eq, h, List.filterMap_append, List.filterMap_cons]
    cases l.hook? target <;> rfl
  · cases target <;> rfl

end Outline

namespace Script

variable {ctx : ScanContext} {path : Path} {source : LogicalSource} {s : Script}

/-- The hooks of a script are the directives of its source in their order. -/
theorem ofSource_hooks (h : ofSource ctx path source = .ok s) (target : LoadState) :
    s.hooksFor target = source.hooks target := by
  rcases ofSource_eq_ok_iff.1 h with ⟨o, hrun, hopen, rfl⟩
  rw [LogicalSource.hooks, ← Outline.hooks_of_run hrun]
  cases target <;> rfl

/-- A script that has been read is not loaded. -/
theorem ofSource_state (h : ofSource ctx path source = .ok s) : s.state = .unloaded := by
  rcases ofSource_eq_ok_iff.1 h with ⟨o, hrun, hopen, rfl⟩
  rfl

/-- In a script that has been read a key finds the one function that has it. -/
theorem lookup_eq_some_iff (h : ofSource ctx path source = .ok s) {key : Text} {f : Func} :
    s.functions.lookup key = some f ↔ f ∈ s.functions.funcs ∧ f.key = key := by
  rcases ofSource_holds h with ⟨decls, main, hholds, -⟩
  have hproper : s.functions.Proper := by
    constructor
    · intro e he
      rw [hholds.functions_eq] at he
      rcases List.mem_map.1 he with ⟨f, -, rfl⟩
      rfl
    · exact hholds.keys_nodup
  exact hproper.lookup_eq_some_iff

end Script

end ScriptScan
