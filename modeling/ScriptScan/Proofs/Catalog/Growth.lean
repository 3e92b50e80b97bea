import Mathlib.Data.List.Pairwise
import ScriptScan.Proofs.Catalog.Index

/-!
# What a call changes

A call changes the catalog in one way only: a scan that succeeds on a path that is not known adds
one script at the end. So three tables that are updated one after the other never disagree, and a
call that fails, at whatever point, leaves nothing behind.

* `Catalog.Adds` says what it is to add a script, and nothing else.
* `Catalog.Frames` says what one call may change, by how it ends.
* `Catalog.WellKept` is the invariant that ties the tables together: scripts stand under their own
  paths, and search paths are the directories of scripts, each of them once.
* `Catalog.kept_run` is the conclusion for every run, and for every call behind it.
-/

namespace ScriptScan

/-- The source that a call has scanned, if there is one: the source at hand, or the one that is
found for the request. -/
def Call.source? (call : Call) : Option Source :=
  match call.request with
  | .resolve _ _ _ => none
  | .scan span request relative =>
    (Catalog.resolve call.setup call.fs span request relative).toOption
  | .process source => some source

namespace Catalog

/-! ## Growing -/

/-- Whether a catalog is another one with more at the end of its tables. -/
structure Extends (c d : Catalog) : Prop where
  scripts : c.scripts <+: d.scripts
  functions : c.functions <+: d.functions
  searchPaths : c.searchPaths <+: d.searchPaths
  system_eq : d.system = c.system

theorem Extends.refl (c : Catalog) : c.Extends c :=
  ⟨List.prefix_refl _, List.prefix_refl _, List.prefix_refl _, rfl⟩

theorem Extends.trans {c d e : Catalog} (h : c.Extends d) (h' : d.Extends e) : c.Extends e :=
  ⟨h.scripts.trans h'.scripts, h.functions.trans h'.functions,
    h.searchPaths.trans h'.searchPaths, h'.system_eq.trans h.system_eq⟩

/-- Whether a catalog is another one with one more script under the given path, its functions, and
perhaps its directory. -/
structure Adds (c d : Catalog) (key : Path) (s : Script) : Prop where
  scripts_eq : d.scripts = c.scripts ++ [(key, s)]
  functions_eq : d.functions = c.functions ++ FuncTable.ofFuncs s.publicFuncs
  owned : ∀ f ∈ s.publicFuncs, f.script = key
  searchPaths_eq : d.searchPaths = c.searchPaths ∨
    ∃ dir, key.parent? = some dir ∧ d.searchPaths = c.searchPaths ++ [dir]
  system_eq : d.system = c.system

theorem Adds.extends {c d : Catalog} {key : Path} {s : Script} (h : c.Adds d key s) :
    c.Extends d := by
  refine ⟨?_, ?_, ?_, h.system_eq⟩
  · rw [h.scripts_eq]
    exact List.prefix_append _ _
  · rw [h.functions_eq]
    exact List.prefix_append _ _
  · rcases h.searchPaths_eq with heq | ⟨dir, -, heq⟩
    · exact heq.symm ▸ List.prefix_refl _
    · rw [heq]
      exact List.prefix_append _ _

/-! ## Search paths -/

/-- A directory is added only if it is the one of the path and is not there yet. -/
theorem addSearchPath_cases (fs : FileSystem) (key : Path) (paths : List Path) :
    addSearchPath fs key paths = paths ∨
      ∃ dir, key.parent? = some dir ∧ (∀ p ∈ paths, p.same dir = false) ∧
        addSearchPath fs key paths = paths ++ [dir] := by
  unfold addSearchPath
  cases hparent : key.parent? with
  | none => exact .inl rfl
  | some dir =>
    by_cases hskip : (!fs.isDir dir || paths.any (·.same dir)) = true
    · exact .inl (by simp only [hskip, if_true])
    · refine .inr ⟨dir, rfl, ?_, by simp only [hskip, if_false, Bool.false_eq_true]⟩
      intro p hp
      rw [Bool.not_eq_true, Bool.or_eq_false_iff] at hskip
      have hnone := List.any_eq_false.1 hskip.2 p hp
      simpa using hnone

/-! ## One call -/

/-- What a call may change. If it fails, or scans no source, nothing changes. If the path of its
source is known, it answers with the script that is known, and nothing changes either, whatever the
source says. If it succeeds on a path that is not known, it adds the script that it answers with. -/
structure Frames (c : Catalog) (call : Call) : Prop where
  failed : ∀ f, (c.serve call).2 = .error f → (c.serve call).1 = c
  unscanned : call.source? = none → (c.serve call).1 = c
  known : ∀ source s, call.source? = some source →
    c.find? (call.fs.canonical source.path) = some s → c.serve call = (c, .ok (.script s))
  added : ∀ source r, call.source? = some source →
    c.find? (call.fs.canonical source.path) = none → (c.serve call).2 = .ok r →
    ∃ s, r = .script s ∧ c.Adds (c.serve call).1 (call.fs.canonical source.path) s

variable {hs : List HostFunc} {c : Catalog}

/-- A call that scans no source changes nothing. -/
theorem serve_of_unscanned {call : Call} (h : call.source? = none) : (c.serve call).1 = c := by
  rcases call with ⟨setup, fs, request⟩
  cases request with
  | resolve span request relative => rfl
  | scan span request relative =>
    simp only [Call.source?] at h
    cases hresolve : resolve setup fs span request relative with
    | error f => simp [serve, scan, hresolve]
    | ok source =>
      rw [hresolve] at h
      cases h
  | process source => cases h

/-- A call that scans a source does what the scan does. -/
theorem serve_of_scanned {call : Call} {source : Source} (h : call.source? = some source) :
    c.serve call =
      ((c.scanSource call.setup call.fs source).1,
        (c.scanSource call.setup call.fs source).2.map .script) := by
  rcases call with ⟨setup, fs, request⟩
  cases request with
  | resolve span request relative => cases h
  | scan span request relative =>
    simp only [Call.source?] at h
    cases hresolve : resolve setup fs span request relative with
    | error f =>
      rw [hresolve] at h
      cases h
    | ok source' =>
      rw [hresolve] at h
      cases h
      simp [serve, scan, hresolve]
  | process source' =>
    cases h
    rfl

/-- Publishing a script under a path that is not known adds it: none of its functions is dropped. -/
theorem Consistent.adds_publish (h : Consistent hs c) {setup : Setup} (fs : FileSystem) {key : Path}
    {content : Text} {s : Script} (hnew : c.find? key = none)
    (hread : c.read setup key content = .ok s) : c.Adds (c.publish fs key s) key s := by
  have hindex := (h.publish fs hnew hread).index_eq
  rcases holds_of_read hread with ⟨decls, main, hholds, -⟩
  refine ⟨rfl, ?_, ?_, ?_, rfl⟩
  · -- the index is made of its parts before and after, and one part is new
    rw [hindex, h.index_eq]
    simp [Catalog.publish]
  · intro f hf
    rw [hholds.publicFuncs_eq] at hf
    rcases List.mem_map.1 hf with ⟨d, hd, rfl⟩
    exact hholds.owned d hd
  · rcases addSearchPath_cases fs key c.searchPaths with heq | ⟨dir, hparent, -, heq⟩
    · exact .inl heq
    · exact .inr ⟨dir, hparent, heq⟩

theorem Consistent.frames (h : Consistent hs c) (call : Call) : c.Frames call := by
  constructor
  case failed =>
    intro f hf
    cases hsource : call.source? with
    | none => exact serve_of_unscanned hsource
    | some source =>
      rw [serve_of_scanned hsource] at hf ⊢
      -- a scan that adds a script succeeds
      rcases scanSource_cases c call.setup call.fs source with heq | ⟨s, hnew, hread, -⟩
      · exact heq
      · rw [scanSource_of_read hnew hread] at hf
        cases hf
  case unscanned => exact serve_of_unscanned
  case known =>
    intro source s hsource hknown
    rw [serve_of_scanned hsource, scanSource_of_known hknown]
    rfl
  case added =>
    intro source r hsource hnew hr
    rw [serve_of_scanned hsource] at hr ⊢
    cases hread : c.read call.setup (call.fs.canonical source.path) source.content with
    | error f =>
      rw [scanSource_of_fault hnew hread] at hr
      cases hr
    | ok s =>
      rw [scanSource_of_read hnew hread] at hr ⊢
      cases hr
      exact ⟨s, rfl, h.adds_publish call.fs hnew hread⟩

theorem Consistent.extends_serve (h : Consistent hs c) (call : Call) :
    c.Extends (c.serve call).1 := by
  rcases serve_cases c call with heq | ⟨key, content, s, hnew, hread, heq⟩
  · rw [heq]
    exact .refl c
  · rw [heq]
    exact (h.adds_publish call.fs hnew hread).extends

/-! ## Runs -/

/-- What ties the tables together: every script stands under its own path, and no two under the
same one; no two search paths are the same directory, and each is the directory of a script. -/
structure WellKept (c : Catalog) : Prop where
  path_eq : ∀ e ∈ c.scripts, e.2.path = e.1
  keys_apart : c.scripts.Pairwise fun e e' => e.1.same e'.1 = false
  dirs_apart : c.searchPaths.Pairwise fun p q => p.same q = false
  parents : ∀ dir ∈ c.searchPaths, ∃ e ∈ c.scripts, e.1.parent? = some dir

/-- Of entries under paths that are apart no two stand under the same path. -/
theorem eq_of_apart {entries : List (Path × Script)}
    (h : entries.Pairwise fun e e' => e.1.same e'.1 = false) {e e' : Path × Script}
    (he : e ∈ entries) (he' : e' ∈ entries) (hsame : e.1.same e'.1 = true) : e = e' := by
  have hsymm : Std.Symm fun e e' : Path × Script => e.1.same e'.1 = false := by
    constructor
    intro e e' hother
    rw [Path.same_comm]
    exact hother
  by_contra hne
  have hother := h.forall he he' hne
  rw [hsame] at hother
  cases hother

/-- What stands under a path is found under it. -/
theorem WellKept.find?_of_mem (h : WellKept c) {e : Path × Script} (he : e ∈ c.scripts) :
    c.find? e.1 = some e.2 := by
  have hisSome : (c.scripts.find? (·.1.same e.1)).isSome :=
    List.find?_isSome.2 ⟨e, he, Path.same_refl e.1⟩
  obtain ⟨f, hf⟩ := Option.isSome_iff_exists.1 hisSome
  have hsame := List.find?_some (p := fun f : Path × Script => f.1.same e.1) hf
  have hfe := eq_of_apart h.keys_apart (List.mem_of_find?_eq_some hf) he hsame
  rw [find?, hf, hfe]
  rfl

theorem wellKept_initial (hs : List HostFunc) : WellKept (initial hs) :=
  ⟨by simp [initial], by simp [initial], by simp [initial], by simp [initial]⟩

theorem WellKept.publish (h : WellKept c) {setup : Setup} (fs : FileSystem) {key : Path}
    {content : Text} {s : Script} (hnew : c.find? key = none)
    (hread : c.read setup key content = .ok s) : WellKept (c.publish fs key s) := by
  rcases holds_of_read hread with ⟨decls, main, hholds, -⟩
  have hparents : ∀ dir ∈ c.searchPaths,
      ∃ e ∈ c.scripts ++ [(key, s)], e.1.parent? = some dir := by
    intro dir hdir
    obtain ⟨e, he, hparent⟩ := h.parents dir hdir
    exact ⟨e, List.mem_append_left _ he, hparent⟩
  constructor
  case path_eq => exact List.forall_mem_append.2 ⟨h.path_eq, by simpa using hholds.path_eq⟩
  case keys_apart =>
    refine List.pairwise_append.2 ⟨h.keys_apart, by simp, ?_⟩
    intro e he e' he'
    rw [List.mem_singleton.1 he']
    exact find?_eq_none_iff.1 hnew e he
  case dirs_apart =>
    show (addSearchPath fs key c.searchPaths).Pairwise _
    rcases addSearchPath_cases fs key c.searchPaths with heq | ⟨dir, -, hfresh, heq⟩
    · rw [heq]
      exact h.dirs_apart
    · rw [heq]
      refine List.pairwise_append.2 ⟨h.dirs_apart, by simp, ?_⟩
      intro p hp q hq
      rw [List.mem_singleton.1 hq]
      exact hfresh p hp
  case parents =>
    show ∀ dir ∈ addSearchPath fs key c.searchPaths, _
    rcases addSearchPath_cases fs key c.searchPaths with heq | ⟨dir, hparent, -, heq⟩
    · rw [heq]
      exact hparents
    · rw [heq]
      -- the new directory is that of the new script
      have hadded : ∀ d ∈ [dir], ∃ e ∈ c.scripts ++ [(key, s)], e.1.parent? = some d := by
        intro d hd
        rw [List.mem_singleton.1 hd]
        exact ⟨(key, s), by simp, hparent⟩
      exact List.forall_mem_append.2 ⟨hparents, hadded⟩

theorem wellKept_run (hs : List HostFunc) (calls : List Call) :
    WellKept ((initial hs).run calls) :=
  run_induction (fun fs h hnew hread => h.publish fs hnew hread) (wellKept_initial hs) calls

theorem extends_run (hs : List HostFunc) (calls later : List Call) :
    ((initial hs).run calls).Extends ((initial hs).run (calls ++ later)) := by
  induction later generalizing calls with
  | nil =>
    rw [List.append_nil]
    exact .refl _
  | cons call later ih =>
    have hstep := (consistent_run hs calls).extends_serve call
    have hrest := ih (calls ++ [call])
    have hcall : (initial hs).run (calls ++ [call]) = (((initial hs).run calls).serve call).1 := by
      simp [run]
    rw [List.append_assoc, List.singleton_append, hcall] at hrest
    exact hstep.trans hrest

/-- In every catalog that a host can come to, the tables fit together; whatever is called next
changes it only as `Frames` allows; and whatever is called later on only puts more at the end. -/
theorem kept_run (hostFuncs : List HostFunc) (calls : List Call) :
    WellKept ((initial hostFuncs).run calls) ∧
      (∀ call, ((initial hostFuncs).run calls).Frames call) ∧
      ∀ later, ((initial hostFuncs).run calls).Extends
        ((initial hostFuncs).run (calls ++ later)) := by
  have hconsistent := consistent_run hostFuncs calls
  have hkept := wellKept_run hostFuncs calls
  have hgrows := extends_run hostFuncs calls
  exact ⟨hkept, hconsistent.frames, hgrows⟩

end Catalog

end ScriptScan
