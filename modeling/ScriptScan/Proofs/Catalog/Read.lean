import ScriptScan.Proofs.Catalog.Reachable

/-!
# Scripts that were read

Every script that a catalog knows, and every script that a call answers with, was read from a source
at some time. Loading and unloading change its state and nothing else. So what holds of every script
that is read, and does not speak of its state, holds of all these scripts
(`Catalog.Reachable.isRead`, `Catalog.Reachable.isRead_of_serve`).
-/

namespace ScriptScan

/-- Whether a script was read from a source. -/
def Script.IsRead (s : Script) : Prop :=
  ∃ (c : Catalog) (setup : Setup) (key : Path) (content : Text), c.read setup key content = .ok s

/-- The script that an answer is, if it is one. -/
def Reply.script? : Reply → Option Script
  | source _ => none
  | script s => some s

namespace Catalog

variable {hostFuncs : List HostFunc} {c : Catalog} {call : Call} {s : Script}

/-! ## Runs -/

theorem isRead_run (hostFuncs : List HostFunc) (calls : List Call) :
    ∀ e ∈ ((initial hostFuncs).run calls).scripts, e.2.IsRead := by
  refine run_induction (P := fun c => ∀ e ∈ c.scripts, e.2.IsRead) ?_ (by simp [initial]) calls
  intro c setup key content s fs h hnew hread
  refine List.forall_mem_append.2 ⟨h, ?_⟩
  simpa using ⟨c, setup, key, content, hread⟩

/-- A call that answers with a script has scanned a source. -/
theorem exists_source_of_serve (hserve : (c.serve call).2 = .ok (.script s)) :
    ∃ source, call.source? = some source ∧
      (c.scanSource call.setup call.fs source).2 = .ok s := by
  cases hsource : call.source? with
  | some source =>
    rw [serve_of_scanned hsource] at hserve
    refine ⟨source, rfl, ?_⟩
    cases hscan : (c.scanSource call.setup call.fs source).2 with
    | error fault =>
      rw [hscan] at hserve
      cases hserve
    | ok s' =>
      rw [hscan] at hserve
      cases hserve
      rfl
  | none =>
    rcases call with ⟨setup, fs, request⟩
    cases request with
    | resolve span request relative =>
      simp only [serve] at hserve
      cases hresolve : resolve setup fs span request relative with
      | error fault =>
        rw [hresolve] at hserve
        cases hserve
      | ok source =>
        rw [hresolve] at hserve
        cases hserve
    | scan span request relative =>
      simp only [Call.source?] at hsource
      cases hresolve : resolve setup fs span request relative with
      | error fault =>
        simp only [serve, scan, hresolve] at hserve
        cases hserve
      | ok source =>
        rw [hresolve] at hsource
        cases hsource
    | process source => cases hsource

/-- A call answers with a script that is known, or with one that it reads. -/
theorem script_of_serve (hserve : (c.serve call).2 = .ok (.script s)) :
    (∃ e ∈ c.scripts, e.2 = s) ∨ ∃ key content, c.read call.setup key content = .ok s := by
  rcases exists_source_of_serve hserve with ⟨source, -, hscan⟩
  rcases scanSource_eq_ok_iff.1 (Prod.ext rfl hscan) with ⟨hknown, -⟩ | ⟨-, hread, -⟩
  · rw [find?, Option.map_eq_some_iff] at hknown
    rcases hknown with ⟨e, he, heq⟩
    exact .inl ⟨e, List.mem_of_find?_eq_some he, heq⟩
  · exact .inr ⟨_, source.content, hread⟩

theorem isRead_of_serve (h : ∀ e ∈ c.scripts, e.2.IsRead)
    (hserve : (c.serve call).2 = .ok (.script s)) : s.IsRead := by
  rcases script_of_serve hserve with ⟨e, he, rfl⟩ | ⟨key, content, hread⟩
  · exact h e he
  · exact ⟨c, call.setup, key, content, hread⟩

/-- An answer that has a script with some property that can be computed. -/
theorem exists_script {α : Type} {r : Except Fault Reply} {f : Script → α} {a : α}
    {P : Script → Prop} (h : (r.toOption.bind Reply.script?).map f = some a)
    (hP : ∀ s, r = .ok (.script s) → P s) : ∃ s, r = .ok (.script s) ∧ f s = a ∧ P s := by
  obtain ⟨s, hs, rfl⟩ := Option.map_eq_some_iff.1 h
  obtain ⟨reply, hreply, hscript⟩ := Option.bind_eq_some_iff.1 hs
  cases r with
  | error fault => cases hreply
  | ok reply' =>
    cases hreply
    cases reply with
    | source source => cases hscript
    | script s' =>
      cases hscript
      exact ⟨s, rfl, rfl, hP s rfl⟩

/-! ## Catalogs that a host can come to -/

/-- What a script holds does not depend on its state. -/
theorem holds_of_unloaded {path : Path} {decls : List FuncDecl} {main : FuncDecl}
    (h : s.unloaded.Holds path decls main) : s.Holds path decls main :=
  ⟨h.path_eq, h.functions_eq, h.main_eq, h.owned, h.named, h.nodup⟩

theorem Reachable.wellKept (h : Reachable hostFuncs c) : WellKept c.unloaded :=
  h.of_run (wellKept_run hostFuncs)

/-- A catalog keeps each script under its own path. -/
theorem Reachable.path_eq (h : Reachable hostFuncs c) {e : Path × Script} (he : e ∈ c.scripts) :
    e.2.path = e.1 :=
  h.wellKept.path_eq (e.1, e.2.unloaded) (List.mem_map_of_mem he)

/-- Under one path a catalog keeps one script. -/
theorem Reachable.eq_of_same (h : Reachable hostFuncs c) {e e' : Path × Script}
    (he : e ∈ c.scripts) (he' : e' ∈ c.scripts) (hsame : e.1.same e'.1 = true) : e = e' := by
  have hapart : c.scripts.Pairwise fun e e' => e.1.same e'.1 = false :=
    List.pairwise_map.1 h.wellKept.keys_apart
  exact eq_of_apart hapart he he' hsame

/-- But for its state, a script of a catalog that a host can come to is one that was read. -/
theorem Reachable.isRead (h : Reachable hostFuncs c) : ∀ e ∈ c.scripts, e.2.unloaded.IsRead := by
  have hunloaded := h.of_run (P := fun c => ∀ e ∈ c.scripts, e.2.IsRead) (isRead_run hostFuncs)
  intro e he
  exact hunloaded (e.1, e.2.unloaded) (List.mem_map_of_mem he)

theorem Reachable.isRead_of_serve (h : Reachable hostFuncs c)
    (hserve : (c.serve call).2 = .ok (.script s)) : s.unloaded.IsRead := by
  rcases script_of_serve hserve with ⟨e, he, rfl⟩ | ⟨key, content, hread⟩
  · exact h.isRead e he
  · rw [unloaded_of_read hread]
    exact ⟨c, call.setup, key, content, hread⟩

end Catalog

end ScriptScan
