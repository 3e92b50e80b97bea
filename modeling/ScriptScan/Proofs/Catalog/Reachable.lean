import ScriptScan.Proofs.Catalog.Growth
import ScriptScan.Proofs.Outline.Hooks

/-!
# Catalogs that a host can come to

Besides its calls, a host loads and unloads scripts. That changes the states of the scripts and
nothing else, and no call looks at a state. So what is true of all runs, and does not speak of
states, is true of all catalogs that a host can come to.

* `Catalog.Reachable` has one constructor for each thing that a host does.
* `Catalog.scanSource_unloaded`, `Catalog.serve_unloaded` — no call looks at a state.
* `Catalog.Reachable.exists_run` — but for the states, every such catalog is that of a run; so an
  invariant of the runs holds of it (`Catalog.Reachable.of_run`).
-/

namespace ScriptScan

/-- The script before it was loaded. -/
def Script.unloaded (s : Script) : Script :=
  { s with state := .unloaded }

/-- A transition changes the state of a script and nothing else of it. -/
theorem Script.unloaded_transition {σ : Type} (s : Script) (frame : CallFrame σ) (memory : σ)
    (target : LoadState) : (s.transition frame memory target).1.unloaded = s.unloaded := by
  unfold transition
  split <;> rfl

namespace Catalog

/-- The catalog before any of its scripts was loaded. -/
def unloaded (c : Catalog) : Catalog :=
  { c with
    scripts := c.scripts.map fun (key, s) => (key, s.unloaded)
    system := c.system.unloaded }

/-- The catalogs that a host can come to: it makes calls, and it loads and unloads scripts. -/
inductive Reachable (hostFuncs : List HostFunc) : Catalog → Prop where
  | initial : Reachable hostFuncs (.initial hostFuncs)
  | serve {c : Catalog} (h : Reachable hostFuncs c) (call : Call) :
      Reachable hostFuncs (c.serve call).1
  | transition {c d : Catalog} {σ : Type} (h : Reachable hostFuncs c) (ref : ScriptRef)
      (frame : CallFrame σ) (memory : σ) (target : LoadState) (run : HookRun σ)
      (ht : c.transition ref frame memory target = some (d, run)) : Reachable hostFuncs d

variable {hostFuncs : List HostFunc} {c d : Catalog} {setup : Setup} {fs : FileSystem}
  {source : Source} {key : Path}

/-! ## Calls and states -/

theorem find?_unloaded (c : Catalog) (key : Path) :
    c.unloaded.find? key = (c.find? key).map Script.unloaded := by
  simp [find?, unloaded, List.find?_map, Function.comp_def]

/-- A script that is read is not loaded yet. -/
theorem unloaded_of_read {content : Text} {s : Script} (h : c.read setup key content = .ok s) :
    s.unloaded = s := by
  unfold Catalog.read at h
  split at h
  · cases h
  · rw [Script.unloaded, ← Script.ofSource_state h]

/-- A scan comes to the same whatever the states are. -/
theorem scanSource_unloaded (c : Catalog) (setup : Setup) (fs : FileSystem) (source : Source) :
    c.unloaded.scanSource setup fs source =
      ((c.scanSource setup fs source).1.unloaded,
        (c.scanSource setup fs source).2.map Script.unloaded) := by
  have hread : c.unloaded.read setup (fs.canonical source.path) source.content =
      c.read setup (fs.canonical source.path) source.content := rfl
  cases hfind : c.find? (fs.canonical source.path) with
  | some s =>
    have hfind' : c.unloaded.find? (fs.canonical source.path) = some s.unloaded := by
      rw [find?_unloaded, hfind]
      rfl
    rw [scanSource_of_known hfind, scanSource_of_known hfind']
    rfl
  | none =>
    have hfind' : c.unloaded.find? (fs.canonical source.path) = none := by
      rw [find?_unloaded, hfind]
      rfl
    cases hresult : c.read setup (fs.canonical source.path) source.content with
    | error f =>
      rw [scanSource_of_fault hfind hresult, scanSource_of_fault hfind' (hread.trans hresult)]
      rfl
    | ok s =>
      -- what is published has not been loaded, so it makes no difference when it is published
      have hs := unloaded_of_read hresult
      rw [scanSource_of_read hfind hresult, scanSource_of_read hfind' (hread.trans hresult)]
      simp [publish, unloaded, hs, Except.map]

theorem serve_unloaded (c : Catalog) (call : Call) :
    (c.unloaded.serve call).1 = (c.serve call).1.unloaded := by
  cases hsource : call.source? with
  | none => rw [serve_of_unscanned hsource, serve_of_unscanned hsource]
  | some source => rw [serve_of_scanned hsource, serve_of_scanned hsource, scanSource_unloaded]

/-! ## Transitions -/

/-- Under a key there is one script, if scripts stand under different keys. -/
theorem eq_of_find? (hapart : c.scripts.Pairwise fun e e' => e.1.same e'.1 = false)
    {s : Script} (hs : c.find? key = some s) {e : Path × Script} (he : e ∈ c.scripts)
    (hkey : e.1.same key = true) : e.2 = s := by
  obtain ⟨found, hfound, rfl⟩ := Option.map_eq_some_iff.1 hs
  obtain ⟨hsame, front, back, hscripts, hfront⟩ := List.find?_eq_some_iff_append.1 hfound
  rw [hscripts] at he hapart
  obtain ⟨-, hback, -⟩ := List.pairwise_append.1 hapart
  rcases List.mem_append.1 he with hmem | hmem
  · -- the first one would have been found
    have hother := hfront e hmem
    rw [hkey] at hother
    cases hother
  · rcases List.mem_cons.1 hmem with rfl | hmem
    · rfl
    · have hdifferent := (List.pairwise_cons.1 hback).1 e hmem
      rw [Path.same_trans hsame (Path.same_symm hkey)] at hdifferent
      cases hdifferent

/-- A script in place of one that differs from it in the state alone. -/
theorem unloaded_replace (hapart : c.scripts.Pairwise fun e e' => e.1.same e'.1 = false)
    {ref : ScriptRef} {s t : Script} (hs : c.script? ref = some s)
    (ht : t.unloaded = s.unloaded) : (c.replace ref t).unloaded = c.unloaded := by
  cases ref with
  | system =>
    cases hs
    simp [replace, unloaded, ht]
  | scanned key =>
    have hscripts : ∀ e ∈ c.scripts,
        ((fun (k, s) => (k, s.unloaded)) ∘ fun (k, s) => if k.same key then (k, t) else (k, s)) e =
          (e.1, e.2.unloaded) := by
      intro e he
      dsimp only [Function.comp]
      split
      · rename_i hkey
        rw [ht, eq_of_find? hapart hs he hkey]
      · rfl
    simp only [replace, unloaded, List.map_map]
    rw [List.map_congr_left hscripts]

/-- But for the states of its scripts, a catalog that a host can come to is that of a run. -/
theorem Reachable.exists_run (h : Reachable hostFuncs c) :
    ∃ calls, c.unloaded = (Catalog.initial hostFuncs).run calls := by
  induction h with
  | initial => exact ⟨[], rfl⟩
  | @serve c h call ih =>
    obtain ⟨calls, hcalls⟩ := ih
    refine ⟨calls ++ [call], ?_⟩
    rw [← serve_unloaded, hcalls, run, run, List.foldl_append]
    rfl
  | @transition c d σ h ref frame memory target run ht ih =>
    -- the same calls: but for the states, a transition leaves the catalog as it is
    obtain ⟨calls, hcalls⟩ := ih
    refine ⟨calls, ?_⟩
    have hapart : c.scripts.Pairwise fun e e' => e.1.same e'.1 = false := by
      have hkept := (wellKept_run hostFuncs calls).keys_apart
      rw [← hcalls, unloaded, List.pairwise_map] at hkept
      exact hkept
    obtain ⟨s, hs, heq⟩ := Option.map_eq_some_iff.1 ht
    have hd : d = c.replace ref (s.transition frame memory target).1 :=
      (congrArg Prod.fst heq).symm
    rw [hd, unloaded_replace hapart hs (s.unloaded_transition frame memory target)]
    exact hcalls

/-- What is true of all runs is true of all catalogs that a host can come to, as they were before
any script was loaded. -/
theorem Reachable.of_run {P : Catalog → Prop} (h : Reachable hostFuncs c)
    (hrun : ∀ calls, P ((Catalog.initial hostFuncs).run calls)) : P c.unloaded := by
  obtain ⟨calls, hcalls⟩ := h.exists_run
  rw [hcalls]
  exact hrun calls

end Catalog

end ScriptScan
