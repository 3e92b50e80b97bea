import ScriptScan.Proofs.Catalog.Cached
import ScriptScan.Proofs.Report.Workers

/-!
# Which scripts a report lists

A report lists the script of each file that was accepted. Files whose sources have one canonical path
come to one script, and each of them lists it. So a report lists every script that was scanned, as
often as files led to it; and it lists no script twice exactly if the sources of the accepted files
have different canonical paths.

* `Catalog.Answered` is the invariant of scanning items one after the other: what an item came to is
  found under the canonical path of its source, and every script is what an item came to.
  `Answered.scanItem` is the step, and `Answered.scanEach` the run.
* `Report.Lists` says what a report lists; `Report.lists_of_answered` gets it from the invariant.
-/

namespace ScriptScan

namespace Catalog

section Items

variable {α : Type} {setup : Setup} {fs : FileSystem} {sourceOf : α → Except Fault Source}
  {c d : Catalog} {a b : α} {s t : Script} {source : Source}
  {rs rs' : List (α × Except Fault Script)}

/-- Whether a catalog holds what some items came to, and nothing else. -/
structure Answered (fs : FileSystem) (sourceOf : α → Except Fault Source) (c : Catalog)
    (rs : List (α × Except Fault Script)) : Prop where
  kept : WellKept c
  found : ∀ a s, (a, .ok s) ∈ rs →
    ∃ source, sourceOf a = .ok source ∧ c.find? (fs.canonical source.path) = some s
  listed : ∀ e ∈ c.scripts, ∃ a, (a, .ok e.2) ∈ rs

theorem answered_initial (hs : List HostFunc) : Answered fs sourceOf (initial hs) [] :=
  ⟨wellKept_initial hs, nofun, by simp [initial]⟩

/-- An item that is refused leaves the catalog as it is. -/
theorem scanItem_of_error {f : Fault} (h : c.scanItem setup fs sourceOf a = (d, .error f)) :
    d = c := by
  unfold scanItem at h
  split at h
  · rename_i source _
    rcases scanSource_cases c setup fs source with heq | ⟨s, hnew, hread, -⟩
    · rw [h] at heq
      exact heq
    · rw [scanSource_of_read hnew hread] at h
      cases h
  · cases h
    rfl

theorem Answered.listed_append (h : Answered fs sourceOf c rs)
    (rs' : List (α × Except Fault Script)) : ∀ e ∈ c.scripts, ∃ a, (a, .ok e.2) ∈ rs ++ rs' := by
  intro e he
  obtain ⟨a, ha⟩ := h.listed e he
  exact ⟨a, List.mem_append_left _ ha⟩

theorem Answered.refused (h : Answered fs sourceOf c rs) (a : α) (f : Fault) :
    Answered fs sourceOf c (rs ++ [(a, .error f)]) := by
  refine ⟨h.kept, ?_, h.listed_append _⟩
  intro b t hmem
  refine h.found b t ?_
  simpa using hmem

theorem Answered.known (h : Answered fs sourceOf c rs) (hsource : sourceOf a = .ok source)
    (hknown : c.find? (fs.canonical source.path) = some s) :
    Answered fs sourceOf c (rs ++ [(a, .ok s)]) := by
  refine ⟨h.kept, ?_, h.listed_append _⟩
  intro b t hmem
  rcases List.mem_append.1 hmem with hmem | hmem
  · exact h.found b t hmem
  · cases List.mem_singleton.1 hmem
    exact ⟨source, hsource, hknown⟩

theorem Answered.publish (h : Answered fs sourceOf c rs) (hsource : sourceOf a = .ok source)
    (hnew : c.find? (fs.canonical source.path) = none)
    (hread : c.read setup (fs.canonical source.path) source.content = .ok s) :
    Answered fs sourceOf (c.publish fs (fs.canonical source.path) s) (rs ++ [(a, .ok s)]) := by
  refine ⟨h.kept.publish fs hnew hread, ?_, ?_⟩
  · intro b t hmem
    rcases List.mem_append.1 hmem with hmem | hmem
    · -- what was found before is still found
      obtain ⟨source', hsource', ht⟩ := h.found b t hmem
      refine ⟨source', hsource', ?_⟩
      rw [find?_publish, ht]
      rfl
    · cases List.mem_singleton.1 hmem
      refine ⟨source, hsource, ?_⟩
      rw [find?_publish, hnew, Path.same_refl]
      rfl
  · refine List.forall_mem_append.2 ⟨h.listed_append _, ?_⟩
    intro e he
    rw [List.mem_singleton.1 he]
    exact ⟨a, by simp⟩

/-- Scanning one more item adds what it comes to: nothing, a script that is known, or a new one. -/
theorem Answered.scanItem (h : Answered fs sourceOf c rs) (a : α) :
    Answered fs sourceOf (c.scanItem setup fs sourceOf a).1
      (rs ++ [(a, (c.scanItem setup fs sourceOf a).2)]) := by
  rcases hitem : c.scanItem setup fs sourceOf a with ⟨d, f | s⟩
  · rw [scanItem_of_error hitem]
    exact h.refused a f
  · obtain ⟨source, hsource, hcases⟩ := scanItem_eq_ok_iff.1 hitem
    rcases hcases with ⟨hknown, rfl⟩ | ⟨hnew, hread, rfl⟩
    · exact h.known hsource hknown
    · exact h.publish hsource hnew hread

theorem Answered.scanEach (h : Answered fs sourceOf c rs) (as : List α) :
    Answered fs sourceOf (c.scanEach setup fs sourceOf as).1
      (rs ++ (c.scanEach setup fs sourceOf as).2) := by
  induction as generalizing c rs with
  | nil =>
    rw [Catalog.scanEach, List.append_nil]
    exact h
  | cons a as ih =>
    have hstep : Answered fs sourceOf (c.scanItem setup fs sourceOf a).1 _ := h.scanItem a
    have hrest := ih hstep
    rw [List.append_assoc] at hrest
    exact hrest

/-- The order in which the items are told makes no difference. -/
theorem Answered.perm (h : Answered fs sourceOf c rs) (hperm : rs.Perm rs') :
    Answered fs sourceOf c rs' := by
  refine ⟨h.kept, fun a s hmem => h.found a s (hperm.mem_iff.2 hmem), ?_⟩
  intro e he
  obtain ⟨a, ha⟩ := h.listed e he
  exact ⟨a, hperm.mem_iff.1 ha⟩

end Items

/-- Two scripts that are found have paths that are spelled alike exactly if they are looked for under
the same path. -/
theorem WellKept.text_path_eq_iff {c : Catalog} (h : WellKept c) {key key' : Path} {s t : Script}
    (hs : c.find? key = some s) (ht : c.find? key' = some t) :
    s.path.text = t.path.text ↔ key.same key' = true := by
  obtain ⟨-, hkey⟩ := h.path_of_find? hs
  obtain ⟨-, hkey'⟩ := h.path_of_find? ht
  constructor
  · intro htext
    have hpath : s.path = t.path := congrArg Path.mk htext
    rw [hpath] at hkey
    exact Path.same_trans (Path.same_symm hkey) hkey'
  · intro hsame
    rw [find?_congr hsame, ht] at hs
    cases hs
    rfl

end Catalog

namespace Report

variable {setup : Setup} {fs : FileSystem} {c : Catalog} {files : List Path}
  {outcomes : List Outcome}

/-- The files that were accepted, each with its script. -/
def accepted (outcomes : List Outcome) : List (Path × Script) :=
  outcomes.filterMap fun (p, r) => r.toOption.map (p, ·)

theorem mem_accepted_iff {p : Path} {s : Script} :
    (p, s) ∈ accepted outcomes ↔ (p, .ok s) ∈ outcomes := by
  unfold accepted
  rw [List.mem_filterMap]
  constructor
  · rintro ⟨⟨q, r⟩, hmem, h⟩
    cases r with
    | error f => cases h
    | ok t =>
      cases h
      exact hmem
  · exact fun h => ⟨(p, .ok s), h, rfl⟩

theorem scripts_ofOutcomes (outcomes : List Outcome) :
    (ofOutcomes outcomes).scripts =
      (accepted outcomes).map fun e => ScriptReport.ofScript e.2 := by
  rw [accepted, List.map_filterMap]
  refine List.filterMap_congr ?_
  rintro ⟨p, r⟩ -
  cases r <;> rfl

/-- The path where the source of a file is found. If it is found nowhere, that is the file's own. -/
def sourcePath (setup : Setup) (fs : FileSystem) (p : Path) : Path :=
  match sourceOf setup fs p with
  | .ok source => source.path
  | .error _ => p

/-- The canonical path of the source of a file. -/
def keyOf (setup : Setup) (fs : FileSystem) (p : Path) : Path :=
  fs.canonical (sourcePath setup fs p)

/-- What a report lists of some files: the scripts of those that are accepted, each known by the
canonical path of the file's source, and all scripts of the catalog. -/
structure Lists (setup : Setup) (fs : FileSystem) (c : Catalog) (files : List Path)
    (outcomes : List Outcome) : Prop where
  files_eq : outcomes.map (·.1) = files
  known : ∀ e ∈ accepted outcomes, c.find? (keyOf setup fs e.1) = some e.2
  listed : ∀ e ∈ c.scripts, ∃ p, (p, e.2) ∈ accepted outcomes
  count_eq : ∀ e ∈ c.scripts, ((ofOutcomes outcomes).scripts.map (·.path)).count e.2.path.text =
    (accepted outcomes).countP fun f => (keyOf setup fs f.1).same e.1
  nodup_iff : ((ofOutcomes outcomes).scripts.map (·.path)).Nodup ↔
    (accepted outcomes).Pairwise fun e f => (keyOf setup fs e.1).same (keyOf setup fs f.1) = false

theorem lists_of_answered (h : Catalog.Answered fs (sourceOf setup fs) c outcomes)
    (hfiles : outcomes.map (·.1) = files) : Lists setup fs c files outcomes := by
  have hknown : ∀ e ∈ accepted outcomes, c.find? (keyOf setup fs e.1) = some e.2 := by
    rintro ⟨p, s⟩ he
    obtain ⟨source, hsource, hs⟩ := h.found p s (mem_accepted_iff.1 he)
    rw [keyOf, sourcePath, hsource]
    exact hs
  have hpaths : (ofOutcomes outcomes).scripts.map (·.path) =
      (accepted outcomes).map fun e => e.2.path.text := by
    rw [scripts_ofOutcomes, List.map_map]
    rfl
  refine ⟨hfiles, hknown, ?_, ?_, ?_⟩
  · intro e he
    obtain ⟨p, hp⟩ := h.listed e he
    exact ⟨p, mem_accepted_iff.2 hp⟩
  · intro e he
    rw [hpaths, List.count, List.countP_map]
    refine List.countP_congr ?_
    intro f hf
    simpa using h.kept.text_path_eq_iff (hknown f hf) (h.kept.find?_of_mem he)
  · rw [hpaths, List.Nodup, List.pairwise_map]
    refine List.Pairwise.iff_of_mem ?_
    intro e f he hf
    rw [← Bool.not_eq_true]
    exact not_congr (h.kept.text_path_eq_iff (hknown e he) (hknown f hf))

end Report

end ScriptScan
