import ScriptScan.Proofs.Catalog.Run
import ScriptScan.Proofs.FuncTable

/-!
# Catalogs that agree

Two catalogs agree if no question that can be asked of them tells them apart: they hold the same
scripts and find the same one under every path, the same function under every key, and the same
directories. The order in which scripts, functions and directories were added may differ.

* `Agrees.scanSource` — catalogs that agree give the same answers, and still agree afterwards.
* `publish_comm` — two scripts with different paths and with no key in common may be published in
  either order.
-/

namespace ScriptScan

namespace Catalog

/-- Whether two catalogs give the same answer to every question. -/
structure Agrees (c d : Catalog) : Prop where
  scripts_perm : c.scripts.Perm d.scripts
  find?_eq : ∀ key, c.find? key = d.find? key
  lookup_eq : ∀ key, c.functions.lookup key = d.functions.lookup key
  searchPaths_eq : ∀ p, c.searchPaths.any (·.same p) = d.searchPaths.any (·.same p)
  system_eq : c.system = d.system

theorem Agrees.refl (c : Catalog) : c.Agrees c :=
  ⟨.refl _, fun _ => rfl, fun _ => rfl, fun _ => rfl, rfl⟩

theorem Agrees.trans {c d e : Catalog} (h : c.Agrees d) (h' : d.Agrees e) : c.Agrees e :=
  ⟨h.scripts_perm.trans h'.scripts_perm, fun key => (h.find?_eq key).trans (h'.find?_eq key),
    fun key => (h.lookup_eq key).trans (h'.lookup_eq key),
    fun p => (h.searchPaths_eq p).trans (h'.searchPaths_eq p), h.system_eq.trans h'.system_eq⟩

/-! ## What a publication adds -/

variable {c d : Catalog} {setup : Setup} {fs : FileSystem} {key key' : Path} {s s' : Script}

theorem find?_publish (c : Catalog) (fs : FileSystem) (key : Path) (s : Script) (k : Path) :
    (c.publish fs key s).find? k = (c.find? k).or (if key.same k then some s else none) := by
  simp only [find?, publish, List.find?_append, List.find?_cons, List.find?_nil]
  cases c.scripts.find? (·.1.same k) with
  | some e => rfl
  | none => cases key.same k <;> rfl

theorem lookup_publish (c : Catalog) (fs : FileSystem) (key : Path) (s : Script) (k : Text) :
    (c.publish fs key s).functions.lookup k =
      (c.functions.lookup k).or (s.publicFuncs.find? (·.key == k)) :=
  FuncTable.lookup_insertAll ..

/-- The directory of a path, if it is one. -/
def dirOf? (fs : FileSystem) (key : Path) : Option Path :=
  key.parent?.filter fs.isDir

/-- A directory is among the search paths afterwards if it was before, or is the one of the path. -/
theorem any_addSearchPath (fs : FileSystem) (key : Path) (paths : List Path) (p : Path) :
    (addSearchPath fs key paths).any (·.same p) =
      (paths.any (·.same p) || (dirOf? fs key).any (·.same p)) := by
  unfold addSearchPath dirOf?
  cases key.parent? with
  | none => simp
  | some dir =>
    dsimp only
    by_cases hdir : fs.isDir dir = true
    · by_cases hold : paths.any (·.same dir) = true
      · -- the directory is known, perhaps in another spelling
        have hknown : dir.same p = true → paths.any (·.same p) = true := by
          intro hp
          rcases List.any_eq_true.1 hold with ⟨q, hq, hsame⟩
          exact List.any_eq_true.2 ⟨q, hq, Path.same_trans hsame hp⟩
        cases hp : dir.same p with
        | false => simp [hdir, hold, hp]
        | true => simp [hdir, hold, hknown hp]
      · simp [hdir, hold]
    · simp [hdir]

theorem Agrees.publish (h : c.Agrees d) (fs : FileSystem) (key : Path) (s : Script) :
    (c.publish fs key s).Agrees (d.publish fs key s) := by
  constructor
  case scripts_perm => exact h.scripts_perm.append_right _
  case find?_eq =>
    intro k
    rw [find?_publish, find?_publish, h.find?_eq]
  case lookup_eq =>
    intro k
    rw [lookup_publish, lookup_publish, h.lookup_eq]
  case searchPaths_eq =>
    intro p
    show (addSearchPath fs key c.searchPaths).any _ = (addSearchPath fs key d.searchPaths).any _
    rw [any_addSearchPath, any_addSearchPath, h.searchPaths_eq]
  case system_eq => exact h.system_eq

/-- Two scripts may be published in either order, if their paths are different, and a key that both
have is one that the catalog has already. -/
theorem publish_comm (hkeys : key.same key' = false)
    (hfuncs : ∀ f ∈ s.publicFuncs, ∀ g ∈ s'.publicFuncs, f.key = g.key →
      c.functions.lookup f.key ≠ none) :
    ((c.publish fs key s).publish fs key' s').Agrees ((c.publish fs key' s').publish fs key s) := by
  constructor
  case scripts_perm =>
    simp only [Catalog.publish, List.append_assoc]
    exact List.Perm.append_left _ (.swap ..)
  case find?_eq =>
    intro k
    simp only [find?_publish]
    cases c.find? k with
    | some t => rfl
    | none =>
      by_cases hk : key.same k = true
      · -- a path that is the same as one of them is not the same as the other
        have hk' : key'.same k = false := by
          rw [Path.same_comm, ← Path.same_congr hk]
          exact hkeys
        simp [hk, hk']
      · simp [hk]
  case lookup_eq =>
    intro k
    simp only [lookup_publish]
    cases hold : c.functions.lookup k with
    | some f => rfl
    | none =>
      cases hf : s.publicFuncs.find? (·.key == k) with
      | none => simp
      | some f =>
        cases hg : s'.publicFuncs.find? (·.key == k) with
        | none => simp
        | some g =>
          -- both scripts have the key, so neither of them has added it
          have hfk : f.key = k := by simpa using List.find?_some hf
          have hgk : g.key = k := by simpa using List.find?_some hg
          have htaken := hfuncs f (List.mem_of_find?_eq_some hf) g (List.mem_of_find?_eq_some hg)
            (hfk.trans hgk.symm)
          rw [hfk] at htaken
          exact absurd hold htaken
  case searchPaths_eq =>
    intro p
    simp only [Catalog.publish, any_addSearchPath, Bool.or_assoc]
    rw [Bool.or_comm ((dirOf? fs key).any _)]
  case system_eq => rfl

/-! ## Scanning -/

theorem Agrees.read (h : c.Agrees d) (setup : Setup) (key : Path) (content : Text) :
    c.read setup key content = d.read setup key content := by
  have hknown : (c.functions.lookup ·) = (d.functions.lookup ·) := funext h.lookup_eq
  simp only [Catalog.read, context, hknown]

/-- Catalogs that agree give the same answer when a source is scanned, and agree afterwards. -/
theorem Agrees.scanSource (h : c.Agrees d) (setup : Setup) (fs : FileSystem) (source : Source) :
    (c.scanSource setup fs source).1.Agrees (d.scanSource setup fs source).1 ∧
      (c.scanSource setup fs source).2 = (d.scanSource setup fs source).2 := by
  cases hfind : c.find? (fs.canonical source.path) with
  | some s =>
    rw [scanSource_of_known hfind, scanSource_of_known ((h.find?_eq _).symm.trans hfind)]
    exact ⟨h, rfl⟩
  | none =>
    have hfind' := (h.find?_eq _).symm.trans hfind
    cases hread : c.read setup (fs.canonical source.path) source.content with
    | ok s =>
      have hread' := (h.read setup _ _).symm.trans hread
      rw [scanSource_of_read hfind hread, scanSource_of_read hfind' hread']
      exact ⟨h.publish fs _ s, rfl⟩
    | error f =>
      have hread' := (h.read setup _ _).symm.trans hread
      rw [scanSource_of_fault hfind hread, scanSource_of_fault hfind' hread']
      exact ⟨h, rfl⟩

end Catalog

end ScriptScan
