import ScriptScan.Proofs.Catalog.Run
import ScriptScan.Proofs.FuncTable
import ScriptScan.Proofs.Outline.Functions

/-!
# The index of functions

Scripts are published one after the other, and a publication puts a function into the index only if
its key is free. Two guards stand before that: a script is not read under a path that is known, and
a declaration is refused if a function of another script has its key. Together they make the index
exact.

* `Catalog.Consistent` is the invariant. It says more than the conclusion: the index is, entry by
  entry, the functions of the host and then the public functions of the scripts.
* `Consistent.lookup_eq_none` is where the guards meet: a key that is free for a path that is not
  known has no entry at all.
* `Catalog.indexExact_run` is the conclusion for every run.
-/

namespace ScriptScan

/-- Whether a function is the first of some functions of the host that has its key. -/
def HostFunc.FirstOf (hs : List HostFunc) (h : HostFunc) : Prop :=
  hs.find? (·.name.key == h.name.key) = some h

namespace Catalog

/-- The index before any script is scanned. -/
def hostIndex (hs : List HostFunc) : FuncTable :=
  .insertAll [] (hs.map .host)

/-! ## The invariant -/

/-- The index is made of the functions of the host and of the scripts, without loss; no two entries
have one key; each script is kept under its path, and holds what a source declares. -/
structure Consistent (hs : List HostFunc) (c : Catalog) : Prop where
  index_eq :
    c.functions = hostIndex hs ++ c.scripts.flatMap fun e => FuncTable.ofFuncs e.2.publicFuncs
  proper : c.functions.Proper
  holds : ∀ e ∈ c.scripts, ∃ decls main, e.2.Holds e.1 decls main

variable {hs : List HostFunc} {c : Catalog}

theorem proper_hostIndex (hs : List HostFunc) : (hostIndex hs).Proper :=
  FuncTable.proper_nil.insertAll _

theorem lookup_hostIndex (hs : List HostFunc) (key : Text) :
    (hostIndex hs).lookup key = (hs.find? (·.name.key == key)).map .host := by
  rw [hostIndex, FuncTable.lookup_insertAll, List.find?_map]
  rfl

/-- The functions of the host that the index keeps are the first ones of their keys. -/
theorem mem_hostIndex {f : Func} :
    f ∈ (hostIndex hs).funcs ↔ ∃ h, HostFunc.FirstOf hs h ∧ f = .host h := by
  have hlookup : f ∈ (hostIndex hs).funcs ↔ (hostIndex hs).lookup f.key = some f := by
    rw [(proper_hostIndex hs).lookup_eq_some_iff]
    simp
  rw [hlookup, lookup_hostIndex, Option.map_eq_some_iff]
  constructor
  · rintro ⟨h, hfind, rfl⟩
    exact ⟨h, hfind, rfl⟩
  · rintro ⟨h, hfirst, rfl⟩
    exact ⟨h, hfirst, rfl⟩

theorem consistent_initial (hs : List HostFunc) : Consistent hs (initial hs) :=
  ⟨by simp [initial, hostIndex], proper_hostIndex hs, by simp [initial]⟩

namespace Consistent

/-- What the index holds, function by function. -/
theorem mem_funcs (h : Consistent hs c) {f : Func} :
    f ∈ c.functions.funcs ↔
      (∃ h, HostFunc.FirstOf hs h ∧ f = .host h) ∨ ∃ e ∈ c.scripts, f ∈ e.2.publicFuncs := by
  rw [h.index_eq, ← mem_hostIndex]
  simp only [FuncTable.funcs, FuncTable.ofFuncs, List.map_append, List.mem_append,
    List.map_flatMap, List.map_map, List.mem_flatMap]
  simp

/-- A public function of a script is a declared one, and belongs to the script. -/
theorem declared_of_mem (h : Consistent hs c) {e : Path × Script} (he : e ∈ c.scripts) {g : Func}
    (hg : g ∈ e.2.publicFuncs) : ∃ f, g = .declared f ∧ f.script = e.1 := by
  rcases h.holds e he with ⟨decls, main, hholds⟩
  rw [hholds.publicFuncs_eq] at hg
  rcases List.mem_map.1 hg with ⟨f, hf, rfl⟩
  exact ⟨f, rfl, hholds.owned f hf⟩

/-- Where no script is known under a path, a key that is free for the path is not taken at all: no
function in the index was declared in a script with that path. -/
theorem lookup_eq_none (h : Consistent hs c) {path : Path} {key : Text}
    (hnew : c.find? path = none) (hfree : FreeFor (c.functions.lookup ·) path key) :
    c.functions.lookup key = none := by
  rw [Option.eq_none_iff_forall_ne_some]
  intro g hg
  rcases hfree g hg with ⟨f, rfl, hsame⟩
  have hmem := (h.proper.lookup_eq_some_iff.1 hg).1
  rcases h.mem_funcs.1 hmem with ⟨f', _, hf'⟩ | ⟨e, he, hfe⟩
  · simp at hf'
  · -- the script of the function would be known under the path
    rcases h.declared_of_mem he hfe with ⟨f', hf', hscript⟩
    cases hf'
    have hother := find?_eq_none_iff.1 hnew e he
    rw [← hscript, hsame] at hother
    exact absurd hother (by simp)

/-- Publishing a script that was read under a path that is not known. -/
theorem publish (h : Consistent hs c) {setup : Setup} (fs : FileSystem) {key : Path}
    {content : Text} {s : Script} (hnew : c.find? key = none)
    (hread : c.read setup key content = .ok s) : Consistent hs (c.publish fs key s) := by
  rcases holds_of_read hread with ⟨decls, main, hholds, hfree⟩
  have hpublic := hholds.publicFuncs_eq
  have hkeys : (s.publicFuncs.map Func.key).Nodup := by
    rw [hpublic, List.map_map]
    exact hholds.nodup
  have hfresh : ∀ g ∈ s.publicFuncs, c.functions.lookup g.key = none := by
    intro g hg
    rw [hpublic] at hg
    rcases List.mem_map.1 hg with ⟨f, hf, rfl⟩
    exact h.lookup_eq_none hnew (hfree f hf)
  refine ⟨?_, ?_, ?_⟩
  · -- nothing is dropped: all keys are new, and different
    have happend := FuncTable.insertAll_of_fresh hkeys hfresh
    simp only [Catalog.publish]
    rw [happend, h.index_eq]
    simp
  · exact h.proper.insertAll _
  · exact List.forall_mem_append.2 ⟨h.holds, by simpa using ⟨decls, main, hholds⟩⟩

end Consistent

/-- Every reachable catalog is consistent. -/
theorem consistent_run (hs : List HostFunc) (calls : List Call) :
    Consistent hs ((initial hs).run calls) :=
  run_induction (fun fs h hnew hread => h.publish fs hnew hread) (consistent_initial hs) calls

/-! ## What a catalog promises -/

/-- What a catalog promises about its index: it holds the first functions of the host and all
functions of the scripts but the main ones, each under its own key and nothing else; a name finds
the function that has its key; and no key is in two places. -/
structure IndexExact (hs : List HostFunc) (c : Catalog) : Prop where
  keyed : ∀ e ∈ c.functions, e.1 = e.2.key
  keys_nodup : (c.functions.map (·.1)).Nodup
  mem_iff : ∀ f, f ∈ c.functions.funcs ↔
    (∃ h, HostFunc.FirstOf hs h ∧ f = .host h) ∨
      ∃ e ∈ c.scripts, f ∈ e.2.functions.funcs ∧ f.isMain = false
  found_iff : ∀ name f, c.func? name = some f ↔ f ∈ c.functions.funcs ∧ f.key = name.key
  owned : ∀ e ∈ c.scripts, e.2.path = e.1 ∧ ∀ f ∈ e.2.functions.funcs, f.script = e.1
  scripts_disjoint : c.scripts.Pairwise fun e e' =>
    ∀ f ∈ e.2.publicFuncs, ∀ g ∈ e'.2.publicFuncs, f.key ≠ g.key
  host_disjoint : ∀ h ∈ hs, ∀ e ∈ c.scripts, ∀ f ∈ e.2.publicFuncs, h.name.key ≠ f.key

namespace Consistent

/-- The keys of the index, in the order of its parts. -/
theorem keys_eq (h : Consistent hs c) :
    c.functions.map (·.1) = (hostIndex hs).map (·.1) ++
      c.scripts.flatMap fun e => e.2.publicFuncs.map Func.key := by
  rw [h.index_eq, List.map_append, List.map_flatMap]
  simp [FuncTable.ofFuncs, Function.comp_def]

theorem scripts_disjoint (h : Consistent hs c) :
    c.scripts.Pairwise fun e e' =>
      ∀ f ∈ e.2.publicFuncs, ∀ g ∈ e'.2.publicFuncs, f.key ≠ g.key := by
  have hnodup := h.proper.nodup
  rw [h.keys_eq, List.nodup_append] at hnodup
  refine (List.pairwise_flatMap.1 hnodup.2.1).2.imp ?_
  intro e e' hne f hf g hg
  exact hne f.key (List.mem_map_of_mem hf) g.key (List.mem_map_of_mem hg)

/-- A key of the host is in the index of the host, even if its function is not. -/
theorem host_disjoint (h : Consistent hs c) {h' : HostFunc} (hh : h' ∈ hs) {e : Path × Script}
    (he : e ∈ c.scripts) {f : Func} (hf : f ∈ e.2.publicFuncs) : h'.name.key ≠ f.key := by
  have hsome : (hs.find? (·.name.key == h'.name.key)).isSome :=
    List.find?_isSome.2 ⟨h', hh, by simp⟩
  have htaken : h'.name.key ∈ (hostIndex hs).map (·.1) := by
    rw [← Option.isSome_map (f := Func.host), ← lookup_hostIndex, List.lookup_isSome_iff] at hsome
    rcases hsome with ⟨p, hp, hkey⟩
    exact List.mem_map.2 ⟨p, hp, (beq_iff_eq.1 hkey).symm⟩
  have hpublic : f.key ∈ c.scripts.flatMap fun e => e.2.publicFuncs.map Func.key :=
    List.mem_flatMap.2 ⟨e, he, List.mem_map_of_mem hf⟩
  have hnodup := h.proper.nodup
  rw [h.keys_eq, List.nodup_append] at hnodup
  exact hnodup.2.2 _ htaken _ hpublic

theorem owned (h : Consistent hs c) {e : Path × Script} (he : e ∈ c.scripts) :
    e.2.path = e.1 ∧ ∀ f ∈ e.2.functions.funcs, f.script = e.1 := by
  rcases h.holds e he with ⟨decls, main, hholds⟩
  refine ⟨hholds.path_eq, ?_⟩
  intro f hf
  rw [hholds.funcs_eq] at hf
  rcases List.mem_map.1 hf with ⟨d, hd, rfl⟩
  rcases List.mem_append.1 hd with hd | hd
  · exact hholds.owned d hd
  · rw [List.mem_singleton.1 hd]
    exact hholds.main_script

end Consistent

/-- In every catalog that a host can come to, the index is exact. -/
theorem indexExact_run (hostFuncs : List HostFunc) (calls : List Call) :
    IndexExact hostFuncs ((initial hostFuncs).run calls) := by
  have h := consistent_run hostFuncs calls
  constructor
  case keyed => exact h.proper.keyed
  case keys_nodup => exact h.proper.nodup
  case mem_iff =>
    intro f
    rw [h.mem_funcs]
    simp [Script.publicFuncs]
  case found_iff =>
    intro name f
    exact h.proper.lookup_eq_some_iff
  case owned => exact fun e he => h.owned he
  case scripts_disjoint => exact h.scripts_disjoint
  case host_disjoint => exact fun h' hh e he f hf => h.host_disjoint hh he hf

end Catalog

end ScriptScan
