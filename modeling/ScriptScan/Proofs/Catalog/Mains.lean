import ScriptScan.Proofs.Catalog.Reachable
import ScriptScan.Proofs.Text.LetterCase

/-!
# Main functions

Every script has a main function of its own, and a main function belongs to its script alone: its
name finds nothing in the index. A script that is read keeps to this. The script of the host's
functions does too, as long as the host provides no function under the key of that name; nothing
keeps it from doing so.

* `Script.HasMain` is what a script has of its main function.
* `Catalog.MainsKept` is the invariant; `Catalog.mains_kept` is the conclusion.
* `Catalog.main_taken` is a host that takes the name for a function of its own.
-/

namespace ScriptScan

/-! ## Scripts -/

namespace Script

/-- Whether a script has a main function that is declared, has the name of one, and belongs to the
script. -/
def HasMain (s : Script) : Prop :=
  ∃ f, s.main? = some f ∧ f.name = mainName ∧ f.script = s.path

theorem Holds.hasMain {s : Script} {path : Path} {decls : List FuncDecl} {main : FuncDecl}
    (h : s.Holds path decls main) : s.HasMain := by
  have hmem : (mainName.key, Func.declared main) ∈ s.functions := by
    rw [h.functions_eq, ← h.main_name]
    simp
  have hlookup := (FuncTable.lookup_eq_some_iff_mem h.keys_nodup).2 hmem
  refine ⟨main, ?_, h.main_name, h.main_script.trans h.path_eq.symm⟩
  simp [main?, func?, FuncTable.find?, hlookup, Func.decl?]

/-- No function that a script publishes has the key of a main function. -/
theorem Holds.key_ne_main {s : Script} {path : Path} {decls : List FuncDecl} {main : FuncDecl}
    (h : s.Holds path decls main) : ∀ g ∈ s.publicFuncs, g.key ≠ mainName.key := by
  intro g hg
  rw [h.publicFuncs_eq] at hg
  obtain ⟨f, hf, rfl⟩ := List.mem_map.1 hg
  exact (h.named f hf).key_ne_main

end Script

namespace Catalog

/-! ## The invariant -/

/-- The function of a host that has the key of a main function, if there is one. The first one
counts. -/
def hostMain? (hostFuncs : List HostFunc) : Option HostFunc :=
  hostFuncs.find? (·.name.key == mainName.key)

/-- What is kept of main functions. Every script that is known has its own; the script of the host
has one unless the host takes its name; and the name finds the function of the host that takes it,
or nothing, in whatever letter case. -/
structure MainsKept (hostFuncs : List HostFunc) (c : Catalog) : Prop where
  scanned : ∀ e ∈ c.scripts, e.2.HasMain
  system : c.system.HasMain ↔ ∀ h ∈ hostFuncs, h.name.key ≠ mainName.key
  resolved : ∀ name, isMainName name = true ∨ name.key = mainName.key →
    c.func? name = (hostMain? hostFuncs).map .host

variable {hostFuncs : List HostFunc} {c : Catalog}

theorem hostMain?_eq_none_iff :
    hostMain? hostFuncs = none ↔ ∀ h ∈ hostFuncs, h.name.key ≠ mainName.key := by
  simp [hostMain?]

/-- All spellings of the name of a main function have one key. -/
theorem key_eq_main {name : Text} (h : isMainName name = true ∨ name.key = mainName.key) :
    name.key = mainName.key := by
  rcases h with hsame | hkey
  · exact Text.key_eq_of_sameIgnoringCase hsame
  · exact hkey

theorem mainsKept_initial : MainsKept hostFuncs (initial hostFuncs) := by
  have hlookup : (initial hostFuncs).functions.lookup mainName.key =
      (hostMain? hostFuncs).map .host :=
    lookup_hostIndex hostFuncs mainName.key
  constructor
  case scanned => simp [initial]
  case system =>
    have hmain : (initial hostFuncs).system.functions.lookup mainName.key =
        ((hostMain? hostFuncs).map .host).or (some (.declared (.main systemPath))) := by
      rw [← hlookup]
      exact FuncTable.lookup_insertNew _ (.declared (.main systemPath)) mainName.key
    rw [← hostMain?_eq_none_iff]
    simp only [Script.HasMain, Script.main?, Script.func?, FuncTable.find?, hmain]
    cases hostMain? hostFuncs with
    | none => exact iff_of_true ⟨.main systemPath, rfl, rfl, rfl⟩ rfl
    | some h => simp [Func.decl?]
  case resolved =>
    intro name hname
    rw [func?, FuncTable.find?, key_eq_main hname]
    exact hlookup

/-- Publishing a script that has its main function, and no other function under that key. -/
theorem MainsKept.publish (h : MainsKept hostFuncs c) (fs : FileSystem) (key : Path) {s : Script}
    (hmain : s.HasMain) (hkeys : ∀ g ∈ s.publicFuncs, g.key ≠ mainName.key) :
    MainsKept hostFuncs (c.publish fs key s) := by
  constructor
  case scanned => exact List.forall_mem_append.2 ⟨h.scanned, by simpa using hmain⟩
  case system => exact h.system
  case resolved =>
    intro name hname
    have hnone : s.publicFuncs.find? (·.key == name.key) = none := by
      rw [List.find?_eq_none]
      intro g hg
      rw [beq_iff_eq, key_eq_main hname]
      exact hkeys g hg
    rw [func?, FuncTable.find?, Catalog.publish, FuncTable.lookup_insertAll, hnone, Option.or_none]
    exact h.resolved name hname

theorem mainsKept_run (hostFuncs : List HostFunc) (calls : List Call) :
    MainsKept hostFuncs ((initial hostFuncs).run calls) := by
  refine run_induction ?_ mainsKept_initial calls
  intro c setup key content s fs h hnew hread
  obtain ⟨decls, main, hholds, -⟩ := holds_of_read hread
  exact h.publish fs key hholds.hasMain hholds.key_ne_main

/-- Main functions have nothing to do with the states of scripts. -/
theorem MainsKept.of_unloaded (h : MainsKept hostFuncs c.unloaded) : MainsKept hostFuncs c := by
  refine ⟨?_, h.system, h.resolved⟩
  intro e he
  exact h.scanned (e.1, e.2.unloaded) (List.mem_map_of_mem he)

/-! ## The conclusion -/

/-- In every catalog that a host can come to, each script that is known has its own main function.
The script of the host has one, and the name of a main function finds nothing in any letter case,
exactly if no function of the host has the key of that name. -/
theorem mains_kept (h : Reachable hostFuncs c) :
    (∀ e ∈ c.scripts, e.2.HasMain) ∧
      (c.system.HasMain ↔ ∀ h ∈ hostFuncs, h.name.key ≠ mainName.key) ∧
      ((∀ name, isMainName name = true → c.func? name = none) ↔
        ∀ h ∈ hostFuncs, h.name.key ≠ mainName.key) ∧
      ∀ name, isMainName name = true → ∀ f, c.func? name = some f →
        ∃ h ∈ hostFuncs, h.name.key = mainName.key ∧ f = .host h := by
  have hunloaded : MainsKept hostFuncs c.unloaded := h.of_run (mainsKept_run hostFuncs)
  have hkept := hunloaded.of_unloaded
  refine ⟨hkept.scanned, hkept.system, ?_, ?_⟩
  · rw [← hostMain?_eq_none_iff]
    constructor
    · intro hnone
      have hmain := hkept.resolved mainName (.inr rfl)
      rw [hnone mainName (by decide)] at hmain
      exact Option.map_eq_none_iff.1 hmain.symm
    · intro hnone name hname
      rw [hkept.resolved name (.inl hname), hnone]
      rfl
  · intro name hname f hf
    rw [hkept.resolved name (.inl hname), Option.map_eq_some_iff] at hf
    obtain ⟨host, hfind, rfl⟩ := hf
    exact ⟨host, List.mem_of_find?_eq_some hfind, by simpa using List.find?_some hfind, rfl⟩

/-- A function of the host, which takes no arguments. -/
def hostFuncNamed (name : Text) : HostFunc :=
  ⟨name, systemPath, .make 0 0, fun _ _ => .returned (.boolean true)⟩

/-- A call that scans a script with a function. -/
def scanCall : Call :=
  ⟨{ options := { includeDir := ⟨['/']⟩ } }, .empty [],
    .process ⟨⟨"http://a/a.au3".toList⟩, "x\nfunc f()\nendfunc".toList⟩⟩

/-- A host with a function of another name, which scans a script. -/
theorem mains_kept_sample :
    Reachable [hostFuncNamed "global".toList]
        ((initial [hostFuncNamed "global".toList]).serve scanCall).1 ∧
      (((initial [hostFuncNamed "global".toList]).serve scanCall).1.scripts.map
        (·.2.functions.map (·.1))) = [["F".toList, "$GLOBAL".toList]] ∧
      (∀ e ∈ ((initial [hostFuncNamed "global".toList]).serve scanCall).1.scripts, e.2.HasMain) ∧
      ((initial [hostFuncNamed "global".toList]).serve scanCall).1.system.HasMain ∧
      ∀ name, isMainName name = true →
        ((initial [hostFuncNamed "global".toList]).serve scanCall).1.func? name = none := by
  have hreach : Reachable [hostFuncNamed "global".toList]
      ((initial [hostFuncNamed "global".toList]).serve scanCall).1 :=
    .serve .initial scanCall
  have hother : ∀ h ∈ [hostFuncNamed "global".toList], h.name.key ≠ mainName.key := by
    intro h hh
    rw [List.mem_singleton.1 hh]
    decide
  obtain ⟨hscanned, hsystem, hresolved, -⟩ := mains_kept hreach
  exact ⟨hreach, by decide +kernel, hscanned, hsystem.2 hother, hresolved.2 hother⟩

/-- A host that provides a function under the name of a main function leaves its own script without
one, and the name finds that function. -/
theorem main_taken :
    (initial [hostFuncNamed "$Global".toList]).system.main? = none ∧
      ((initial [hostFuncNamed "$Global".toList]).func? "$GLOBAL".toList).map Func.isMain =
        some true := by
  decide +kernel

end Catalog

end ScriptScan
