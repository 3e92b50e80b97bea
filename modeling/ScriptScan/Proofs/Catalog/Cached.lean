import Mathlib
import ScriptScan.Proofs.Catalog.Agreement
import ScriptScan.Proofs.Catalog.Growth
import ScriptScan.Proofs.FileSystem.Canonical

/-!
# The names of a cached script

A script is kept under the canonical path of the source that it was read from, and this is its own
path. So it is found by every path with the same canonical path, and by its own path, too, if that
is its own canonical path. A path that strays breaks this: its canonical path is asked for by
another name.

* `Catalog.KeyedBy.run` — while the file system stays as it is, scripts stand under canonical paths.
* `Catalog.KnownBy` says by which paths a script is found.
* `Catalog.cached_under_every_name` is the conclusion for every call of a run; `Catalog.cached_astray`
  is a script that is not found by its own path.
-/

namespace ScriptScan

namespace Catalog

variable {hostFuncs : List HostFunc} {c d : Catalog} {setup : Setup} {fs : FileSystem}
  {source : Source} {key : Path} {s : Script}

/-! ## Scripts that are found -/

theorem find?_of_scanSource (h : c.scanSource setup fs source = (d, .ok s)) :
    d.find? (fs.canonical source.path) = some s := by
  rcases scanSource_eq_ok_iff.1 h with ⟨hknown, rfl⟩ | ⟨hnew, -, rfl⟩
  · exact hknown
  · rw [find?_publish, hnew, Path.same_refl]
    rfl

/-- What is found stays where it is. -/
theorem Extends.find?_eq (h : c.Extends d) (hs : c.find? key = some s) : d.find? key = some s := by
  obtain ⟨e, he, rfl⟩ := Option.map_eq_some_iff.1 hs
  rw [find?, List.IsPrefix.find?_eq_some h.scripts he]
  rfl

/-- What is found stands under its own path, which is the same as the one asked for. -/
theorem WellKept.path_of_find? (h : WellKept c) (hs : c.find? key = some s) :
    (s.path, s) ∈ c.scripts ∧ s.path.same key = true := by
  obtain ⟨⟨k, t⟩, he, rfl⟩ := Option.map_eq_some_iff.1 hs
  have hmem := List.mem_of_find?_eq_some he
  have hpath : t.path = k := h.path_eq _ hmem
  rw [hpath]
  exact ⟨hmem, List.find?_some (p := fun e : Path × Script => e.1.same key) he⟩

/-! ## Keys -/

/-- A call leaves the scripts as they are, or adds one under the canonical path of its source. -/
theorem scripts_serve_cases (c : Catalog) (call : Call) :
    (c.serve call).1.scripts = c.scripts ∨
      ∃ source s, call.source? = some source ∧
        (c.serve call).1.scripts = c.scripts ++ [(call.fs.canonical source.path, s)] := by
  cases hsource : call.source? with
  | none => exact .inl (by rw [serve_of_unscanned hsource])
  | some source =>
    rw [serve_of_scanned hsource]
    rcases scanSource_cases c call.setup call.fs source with heq | ⟨s, -, -, heq⟩
    · exact .inl (by rw [heq])
    · exact .inr ⟨source, s, rfl, by rw [heq]; rfl⟩

/-- Whether all scripts stand under canonical paths of a file system. -/
def KeyedBy (c : Catalog) (fs : FileSystem) : Prop :=
  ∀ e ∈ c.scripts, ∃ p, fs.canonical p = e.1

theorem KeyedBy.serve (h : c.KeyedBy fs) {call : Call} (hfs : call.fs = fs) :
    (c.serve call).1.KeyedBy fs := by
  unfold KeyedBy
  rcases scripts_serve_cases c call with heq | ⟨source, s, -, heq⟩
  · rw [heq]
    exact h
  · rw [heq, List.forall_mem_append]
    refine ⟨h, ?_⟩
    intro e he
    rw [List.mem_singleton.1 he, ← hfs]
    exact ⟨source.path, rfl⟩

theorem KeyedBy.run (h : c.KeyedBy fs) {calls : List Call} (hfs : ∀ call ∈ calls, call.fs = fs) :
    (c.run calls).KeyedBy fs := by
  induction calls generalizing c with
  | nil => exact h
  | cons call calls ih =>
    obtain ⟨hcall, hcalls⟩ := List.forall_mem_cons.1 hfs
    exact ih (h.serve hcall) hcalls

/-! ## Names -/

/-- By which paths a script is found that a path stands for: by all with the same canonical path,
and by its own path exactly if that is not the canonical path of a path that strays. Then it is not
scanned again, whatever the source says. -/
structure KnownBy (c : Catalog) (fs : FileSystem) (p : Path) (s : Script) : Prop where
  every_name : ∀ q, (fs.canonical q).same (fs.canonical p) = true → c.cached? fs q = some s
  own_path : ∃ q, fs.canonical q = s.path
  own_name_iff : c.cached? fs s.path = some s ↔ ∀ q, fs.canonical q = s.path → ¬fs.Strays q
  kept : (∀ q, fs.canonical q = s.path → ¬fs.Strays q) →
    ∀ setup content, c.scanSource setup fs ⟨s.path, content⟩ = (c, .ok s)

theorem find?_congr {k : Path} (h : k.same key = true) : c.find? k = c.find? key := by
  have hsame : (fun e : Path × Script => e.1.same k) = fun e => e.1.same key := by
    funext e
    rw [Path.same_comm, Path.same_congr h, Path.same_comm]
  rw [find?, find?, hsame]

theorem knownBy_of_find? (hkept : WellKept c) (hkeyed : c.KeyedBy fs) {p : Path}
    (hs : c.find? (fs.canonical p) = some s) : c.KnownBy fs p s := by
  obtain ⟨hmem, hsame⟩ := hkept.path_of_find? hs
  obtain ⟨origin, horigin⟩ := hkeyed _ hmem
  have hevery : ∀ q, (fs.canonical q).same (fs.canonical p) = true → c.cached? fs q = some s := by
    intro q hq
    rw [cached?, find?_congr hq, hs]
  have hown : (∀ q, fs.canonical q = s.path → ¬fs.Strays q) → c.cached? fs s.path = some s := by
    intro hsettled
    have hself := (fs.canonical_canonical_iff origin).2 (hsettled origin horigin)
    have horigin : fs.canonical origin = s.path := horigin
    rw [horigin] at hself
    exact hevery s.path (Path.same_trans hself hsame)
  refine ⟨hevery, ⟨origin, horigin⟩, ⟨?_, hown⟩, ?_⟩
  · -- what is found by its own path stands under it
    intro hcached q hq
    rw [← fs.canonical_canonical_iff, hq]
    exact Path.same_symm (hkept.path_of_find? hcached).2
  · intro hsettled setup content
    exact scanSource_of_known (hown hsettled)

/-- While the file system stays as it is, the canonical path of a path is its own canonical path,
unless the path strays. And a script that some path stands for when it is scanned is known by every
name of it from then on. -/
theorem cached_under_every_name {before : List Call} {call : Call}
    (hfs : ∀ call' ∈ before ++ [call], call'.fs = fs)
    (hsource : call.source? = some source)
    (hserve : (((initial hostFuncs).run before).serve call).2 = .ok (.script s)) :
    ((fs.canonical (fs.canonical source.path)).same (fs.canonical source.path) = true ↔
        ¬fs.Strays source.path) ∧
      ∀ later, (∀ call' ∈ later, call'.fs = fs) →
        ((initial hostFuncs).run (before ++ [call] ++ later)).KnownBy fs source.path s := by
  refine ⟨fs.canonical_canonical_iff source.path, ?_⟩
  intro later hlater
  have hcall : (initial hostFuncs).run (before ++ [call]) =
      (((initial hostFuncs).run before).serve call).1 := by
    simp [run]
  have hfound : ((initial hostFuncs).run (before ++ [call])).find? (fs.canonical source.path) =
      some s := by
    rw [serve_of_scanned hsource, hfs call (by simp)] at hserve
    rw [hcall, serve_of_scanned hsource, hfs call (by simp)]
    cases hscan : ((initial hostFuncs).run before).scanSource call.setup fs source with
    | mk c r =>
      rw [hscan] at hserve
      cases r with
      | error f => cases hserve
      | ok t =>
        cases hserve
        exact find?_of_scanSource hscan
  have hkeyed : ((initial hostFuncs).run (before ++ [call] ++ later)).KeyedBy fs :=
    KeyedBy.run (by simp [KeyedBy, initial]) (List.forall_mem_append.2 ⟨hfs, hlater⟩)
  exact knownBy_of_find? (wellKept_run hostFuncs _) hkeyed
    ((extends_run hostFuncs (before ++ [call]) later).find?_eq hfound)

/-- A file `/f`, and a link `/l` to it. -/
def linkedFiles : FileSystem where
  nodes := [([['f']], .file (.bytes [])), ([['l']], .link ['f'])]
  workDir := []
  isTree := ⟨by decide, by decide, by decide, by decide⟩

theorem canonical_link : linkedFiles.canonical ⟨['l']⟩ = ⟨"/f".toList⟩ := by
  cbv

theorem canonical_link_absolute : linkedFiles.canonical ⟨"/l".toList⟩ = ⟨"/f".toList⟩ := by
  cbv

theorem canonical_link_dot : linkedFiles.canonical ⟨"l/.".toList⟩ = ⟨"/l".toList⟩ := by
  cbv

/-- A host that looks for scripts in its file system alone. -/
def localSetup : Setup := { options := { includeDir := ⟨"include".toList⟩ } }

/-- The call that scans the link, which is found empty. -/
def linkCall : Call := ⟨localSetup, linkedFiles, .process ⟨⟨['l']⟩, []⟩⟩

/-- The link is scanned, and its script is known as the file's. -/
theorem cached_under_every_name_sample :
    (((initial []).run []).serve linkCall).2 =
        .ok (.script (.make ⟨"/f".toList⟩ [] [] [] false)) ∧
      ((initial []).run [linkCall]).KnownBy linkedFiles ⟨['l']⟩
        (.make ⟨"/f".toList⟩ [] [] [] false) := by
  have hsource : linkCall.source? = some ⟨⟨['l']⟩, []⟩ := rfl
  have hread : (initial []).read localSetup (linkedFiles.canonical ⟨['l']⟩) [] =
      .ok (.make ⟨"/f".toList⟩ [] [] [] false) := by
    rw [canonical_link]
    rfl
  have hscan : (initial []).scanSource localSetup linkedFiles ⟨⟨['l']⟩, []⟩ = (_, .ok _) :=
    scanSource_of_read rfl hread
  have hserve : (((initial []).run []).serve linkCall).2 =
      .ok (.script (.make ⟨"/f".toList⟩ [] [] [] false)) := by
    rw [serve_of_scanned hsource]
    exact congrArg (fun r => r.2.map Reply.script) hscan
  have hfs : ∀ call ∈ [] ++ [linkCall], call.fs = linkedFiles := by
    simp [linkCall]
  obtain ⟨-, hknown⟩ := cached_under_every_name hfs hsource hserve
  exact ⟨hserve, hknown [] nofun⟩

/-- A link to a file with a single dot behind it strays: its script is kept under the path of the
link, which asks for the file. So the script is not found by its own path, and scanning that makes a
second one. -/
theorem cached_astray :
    let (c, r) := (initial []).scanSource localSetup linkedFiles ⟨⟨"l/.".toList⟩, []⟩
    r.map Script.path = .ok (linkedFiles.canonical ⟨"l/.".toList⟩) ∧
      linkedFiles.canonical ⟨"l/.".toList⟩ = ⟨"/l".toList⟩ ∧
      linkedFiles.canonical ⟨"/l".toList⟩ = ⟨"/f".toList⟩ ∧
      (c.cached? linkedFiles ⟨"/l".toList⟩).isNone ∧
      (c.scanSource localSetup linkedFiles ⟨⟨"/l".toList⟩, []⟩).1.scripts.map (·.2.path) =
        [⟨"/l".toList⟩, ⟨"/f".toList⟩] := by
  have hread : (initial []).read localSetup (linkedFiles.canonical ⟨"l/.".toList⟩) [] =
      .ok (.make ⟨"/l".toList⟩ [] [] [] false) := by
    rw [canonical_link_dot]
    rfl
  have hfirst : (initial []).scanSource localSetup linkedFiles ⟨⟨"l/.".toList⟩, []⟩ = (_, .ok _) :=
    scanSource_of_read rfl hread
  rw [hfirst, canonical_link_dot]
  refine ⟨rfl, rfl, canonical_link_absolute, ?_, ?_⟩
  · rw [cached?, canonical_link_absolute, find?_publish]
    rfl
  · -- nothing is known under the path of the file, and so its script is one more
    have hsecond : ∀ c : Catalog, c.find? ⟨"/f".toList⟩ = none →
        c.read localSetup ⟨"/f".toList⟩ [] = .ok (.make ⟨"/f".toList⟩ [] [] [] false) →
          (c.scanSource localSetup linkedFiles ⟨⟨"/l".toList⟩, []⟩).1.scripts =
            c.scripts ++ [(⟨"/f".toList⟩, .make ⟨"/f".toList⟩ [] [] [] false)] := by
      intro c hnew hread
      rw [← canonical_link_absolute] at hnew hread
      have hscan : c.scanSource localSetup linkedFiles ⟨⟨"/l".toList⟩, []⟩ = (_, .ok _) :=
        scanSource_of_read hnew hread
      rw [hscan, canonical_link_absolute]
      rfl
    rw [hsecond _ (by rw [find?_publish]; rfl) rfl]
    rfl

end Catalog

end ScriptScan
