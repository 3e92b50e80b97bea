import ScriptScan.Script

/-!
# Loading and unloading

A script that is loaded runs its startup hooks, and one that is unloaded its exit hooks, in the
order in which they were registered and without arguments. The state changes before any hook runs,
so a fault means that the state has changed and a hook failed. Errors of the script do not stop the
hooks; a fatal result does. A script that is already in the state asked for runs nothing.
-/

namespace ScriptScan

/-- Calls functions. Its answers may depend on what it has done before. -/
structure CallFrame (σ : Type) where
  call : σ → Func → List Value → CallResult × σ

/-- What running some hooks did. -/
structure HookRun (σ : Type) where
  /-- The functions that were called, in order; none of them got an argument. -/
  calls : List Func
  fault? : Option Fault
  memory : σ

namespace Script

/-- The function that a hook calls, or why it cannot be called. -/
def hookTarget (s : Script) (h : Hook) : Except Fault Func :=
  match s.functions.lookup h.func with
  | none => .error ⟨.unresolvedHook h.func, h.span⟩
  | some f => if 0 < f.arity.min then .error ⟨.hookArity f.name, f.span⟩ else .ok f

/-- Runs some hooks, until one of them fails. -/
def runHooks {σ : Type} (s : Script) (frame : CallFrame σ) (memory : σ) : List Hook → HookRun σ
  | [] => ⟨[], none, memory⟩
  | h :: hs =>
    match s.hookTarget h with
    | .error fault => ⟨[], some fault, memory⟩
    | .ok f =>
      match frame.call memory f [] with
      | (.fatal fault, memory') => ⟨[f], some fault, memory'⟩
      | (_, memory') =>
        let run := s.runHooks frame memory' hs
        { run with calls := f :: run.calls }

/-- The hooks that run on the way to a state. -/
def hooksFor (s : Script) : LoadState → List Hook
  | .loaded => s.startup
  | .unloaded => s.exit

/-- Brings the script into a state. -/
def transition {σ : Type} (s : Script) (frame : CallFrame σ) (memory : σ) (target : LoadState) :
    Script × HookRun σ :=
  if s.state = target then (s, ⟨[], none, memory⟩)
  else ({ s with state := target }, s.runHooks frame memory (s.hooksFor target))

end Script

end ScriptScan
