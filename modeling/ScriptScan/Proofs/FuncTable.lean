import ScriptScan.Script

/-!
# Tables of functions

A table is only ever changed by putting a function under its key unless that key is taken. What
that does is said by two views of a table:

* the view by key: `lookup_insertNew` and `lookup_insertAll` — the entry that is there first stays;
* the view as a list: `insertAll_of_fresh` — functions with different keys, none of them taken, are
  all appended.

`FuncTable.Proper` says that functions stand under their own keys and no key occurs twice; then both
views agree (`Proper.lookup_eq_some_iff`).
-/

namespace ScriptScan

namespace FuncTable

variable {t : FuncTable} {f : Func} {fs : List Func}

/-! ## By key -/

theorem lookup_insertNew (t : FuncTable) (f : Func) (key : Text) :
    (t.insertNew f).lookup key = (t.lookup key).or (if key = f.key then some f else none) := by
  unfold insertNew
  split
  · -- the key is taken, and the table stays as it is
    rename_i htaken
    by_cases hkey : key = f.key
    · rcases Option.isSome_iff_exists.1 htaken with ⟨g, hg⟩
      rw [hkey, hg]
      rfl
    · simp [hkey]
  · by_cases hkey : key = f.key
    · simp [List.lookup_append, hkey]
    · have hne : (key == f.key) = false := beq_eq_false_iff_ne.2 hkey
      simp [List.lookup_append, List.lookup_cons, hkey, hne]

theorem lookup_insertAll (t : FuncTable) (fs : List Func) (key : Text) :
    (t.insertAll fs).lookup key = (t.lookup key).or (fs.find? (·.key == key)) := by
  induction fs generalizing t with
  | nil => simp [insertAll]
  | cons f fs ih =>
    have hfold : t.insertAll (f :: fs) = (t.insertNew f).insertAll fs := rfl
    rw [hfold, ih, lookup_insertNew, List.find?_cons]
    by_cases hkey : key = f.key
    · simp [hkey]
    · have hne : (f.key == key) = false := beq_eq_false_iff_ne.2 fun h => hkey h.symm
      simp [hkey, hne]

/-- If no key occurs twice, then what is found under a key is what stands under it. -/
theorem lookup_eq_some_iff_mem {κ α : Type} [BEq κ] [LawfulBEq κ] {table : List (κ × α)}
    (h : (table.map (·.1)).Nodup) {key : κ} {a : α} :
    table.lookup key = some a ↔ (key, a) ∈ table := by
  constructor
  · intro ha
    rcases List.lookup_eq_some_iff.1 ha with ⟨l₁, l₂, rfl, -⟩
    simp
  · intro hmem
    rcases List.append_of_mem hmem with ⟨l₁, l₂, rfl⟩
    rw [List.map_append, List.nodup_append] at h
    refine List.lookup_eq_some_iff.2 ⟨l₁, l₂, rfl, ?_⟩
    intro p hp
    rw [bne_iff_ne]
    exact fun heq => h.2.2 p.1 (List.mem_map_of_mem hp) key (by simp) heq.symm

/-! ## As a list -/

/-- Some functions, each under its own key. -/
def ofFuncs (fs : List Func) : FuncTable :=
  fs.map fun f => (f.key, f)

/-- Functions with different keys that are not taken are all appended. -/
theorem insertAll_of_fresh (hnodup : (fs.map Func.key).Nodup)
    (hfresh : ∀ f ∈ fs, t.lookup f.key = none) : t.insertAll fs = t ++ ofFuncs fs := by
  induction fs generalizing t with
  | nil => simp [insertAll, ofFuncs]
  | cons f fs ih =>
    rcases List.nodup_cons.1 hnodup with ⟨hf, hnodup'⟩
    have hnew : t.insertNew f = t ++ [(f.key, f)] := by
      simp [insertNew, hfresh f (List.mem_cons_self ..)]
    have hfresh' : ∀ g ∈ fs, (t.insertNew f).lookup g.key = none := by
      intro g hg
      have hne : g.key ≠ f.key := fun h => hf (h ▸ List.mem_map_of_mem hg)
      rw [lookup_insertNew, hfresh g (List.mem_cons_of_mem _ hg), if_neg hne]
      rfl
    have hfold : t.insertAll (f :: fs) = (t.insertNew f).insertAll fs := rfl
    rw [hfold, ih hnodup' hfresh', hnew]
    simp [ofFuncs]

/-! ## Proper tables -/

/-- Functions stand under their own keys, and no key occurs twice. -/
structure Proper (t : FuncTable) : Prop where
  keyed : ∀ e ∈ t, e.1 = e.2.key
  nodup : (t.map (·.1)).Nodup

theorem proper_nil : Proper [] :=
  ⟨by simp, by simp⟩

theorem Proper.insertNew (h : t.Proper) (f : Func) : (t.insertNew f).Proper := by
  unfold FuncTable.insertNew
  split
  · exact h
  · rename_i hfree
    rw [Bool.not_eq_true, Option.isSome_eq_false_iff, Option.isNone_iff_eq_none,
      List.lookup_eq_none_iff] at hfree
    constructor
    · exact List.forall_mem_append.2 ⟨h.keyed, by simp⟩
    · -- the new key is none of the old ones, because none was found under it
      rw [List.map_append, List.nodup_append]
      refine ⟨h.nodup, by simp, ?_⟩
      intro key hkey key' hkey' heq
      rcases List.mem_map.1 hkey with ⟨e, he, rfl⟩
      rw [List.map_singleton, List.mem_singleton] at hkey'
      have hne := hfree e he
      rw [bne_iff_ne] at hne
      exact hne (hkey'.symm.trans heq.symm)

theorem Proper.insertAll (h : t.Proper) (fs : List Func) : (t.insertAll fs).Proper := by
  induction fs generalizing t with
  | nil => exact h
  | cons f fs ih => exact ih (h.insertNew f)

/-- In a proper table the function under a key is the one that has the key. -/
theorem Proper.lookup_eq_some_iff (h : t.Proper) {key : Text} :
    t.lookup key = some f ↔ f ∈ t.funcs ∧ f.key = key := by
  rw [lookup_eq_some_iff_mem h.nodup]
  constructor
  · intro hmem
    exact ⟨List.mem_map_of_mem hmem, (h.keyed _ hmem).symm⟩
  · rintro ⟨hf, rfl⟩
    rcases List.mem_map.1 hf with ⟨e, he, rfl⟩
    rw [← h.keyed e he]
    exact he

end FuncTable

end ScriptScan
