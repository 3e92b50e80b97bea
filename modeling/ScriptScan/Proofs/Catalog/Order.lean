import ScriptScan.Proofs.Catalog.Agreement

/-!
# The order of scans

Scripts that are all accepted in one order are accepted in every other. What a script needs of the
catalog is only that its keys are free; and once it is accepted, no script behind it has any of
them.

* `Catalog.scanEach` scans items one after the other, each by the source that it stands for.
* `Catalog.AcceptsAll` is the relation that all of them are accepted, each with a certain script.
* `AcceptsAll.swap` — two items that stand side by side may change places: the one argument that
  looks at keys.
* `AcceptsAll.perm` — so may any number of them.
-/

namespace ScriptScan

namespace Catalog

variable {α : Type}

/-! ## Scanning items -/

section Items

variable (setup : Setup) (fs : FileSystem) (sourceOf : α → Except Fault Source)

/-- Scans an item by its source, if it has one. -/
def scanItem (c : Catalog) (a : α) : Catalog × Except Fault Script :=
  match sourceOf a with
  | .ok source => c.scanSource setup fs source
  | .error f => (c, .error f)

/-- Scans some items one after the other: the catalog afterwards, and what came of each item. -/
def scanEach (c : Catalog) : List α → Catalog × List (α × Except Fault Script)
  | [] => (c, [])
  | a :: as =>
    let (c', r) := c.scanItem setup fs sourceOf a
    let (c'', rs) := scanEach c' as
    (c'', (a, r) :: rs)

/-- Whether two items stand for sources with different canonical paths. -/
def Apart (a b : α) : Prop :=
  ∀ s t, sourceOf a = .ok s → sourceOf b = .ok t →
    (fs.canonical s.path).same (fs.canonical t.path) = false

/-- Some items, each with the script that it is accepted with, one after the other. -/
inductive AcceptsAll : Catalog → List (α × Script) → Catalog → Prop where
  | nil (c : Catalog) : AcceptsAll c [] c
  | cons {c c₁ c₂ : Catalog} {a : α} {s : Script} {es : List (α × Script)}
      (hitem : c.scanItem setup fs sourceOf a = (c₁, .ok s)) (hrest : AcceptsAll c₁ es c₂) :
      AcceptsAll c ((a, s) :: es) c₂

end Items

variable {setup : Setup} {fs : FileSystem} {sourceOf : α → Except Fault Source}
  {c c₁ c₂ d : Catalog} {a b : α} {s t : Script} {as : List α} {es es' : List (α × Script)}

theorem Apart.symm (h : Apart fs sourceOf a b) : Apart fs sourceOf b a := by
  intro s t hs ht
  rw [Path.same_comm]
  exact h t s ht hs

theorem scanEach_append (c : Catalog) (as bs : List α) :
    c.scanEach setup fs sourceOf (as ++ bs) =
      (((c.scanEach setup fs sourceOf as).1.scanEach setup fs sourceOf bs).1,
        (c.scanEach setup fs sourceOf as).2 ++
          ((c.scanEach setup fs sourceOf as).1.scanEach setup fs sourceOf bs).2) := by
  induction as generalizing c with
  | nil => rfl
  | cons a as ih => simp [scanEach, ih]

theorem map_fst_scanEach (c : Catalog) (as : List α) :
    (c.scanEach setup fs sourceOf as).2.map (·.1) = as := by
  induction as generalizing c with
  | nil => rfl
  | cons a as ih => simp [scanEach, ih]

/-- What comes of the items depends only on the sources that they stand for. -/
theorem map_snd_scanEach_congr {β : Type} {sourceOf' : β → Except Fault Source} {bs : List β}
    (h : as.map sourceOf = bs.map sourceOf') (c : Catalog) :
    (c.scanEach setup fs sourceOf as).2.map (·.2) =
      (c.scanEach setup fs sourceOf' bs).2.map (·.2) := by
  induction as generalizing bs c with
  | nil =>
    rw [List.map_nil, eq_comm, List.map_eq_nil_iff] at h
    rw [h]
    rfl
  | cons a as ih =>
    cases bs with
    | nil => cases h
    | cons b bs =>
      rcases List.cons.inj h with ⟨hab, hrest⟩
      have hitem : c.scanItem setup fs sourceOf a = c.scanItem setup fs sourceOf' b := by
        simp only [scanItem, hab]
      simp only [scanEach, List.map_cons, hitem, ih hrest]

/-! ## The relation and the function -/

theorem AcceptsAll.scanEach_eq (h : AcceptsAll setup fs sourceOf c es d) :
    c.scanEach setup fs sourceOf (es.map (·.1)) = (d, es.map fun e => (e.1, .ok e.2)) := by
  induction h with
  | nil c => rfl
  | cons hitem hrest ih => simp [scanEach, hitem, ih]

/-- Items that all come to a script are accepted. -/
theorem acceptsAll_of_isOk (h : ∀ e ∈ (c.scanEach setup fs sourceOf as).2, e.2.isOk = true) :
    ∃ es, AcceptsAll setup fs sourceOf c es (c.scanEach setup fs sourceOf as).1 ∧
      es.map (·.1) = as := by
  induction as generalizing c with
  | nil => exact ⟨[], .nil c, rfl⟩
  | cons a as ih =>
    simp only [scanEach, List.forall_mem_cons] at h
    rcases h with ⟨hhead, htail⟩
    rcases exists_eq_ok_of_isOk hhead with ⟨s, hs⟩
    rcases ih htail with ⟨es, hes, hmap⟩
    exact ⟨(a, s) :: es, .cons (Prod.ext rfl hs) hes, by rw [List.map_cons, hmap]⟩

/-! ## One item -/

/-- An item is accepted if its script is known, or can be read and is added. -/
theorem scanItem_eq_ok_iff :
    c.scanItem setup fs sourceOf a = (d, .ok s) ↔
      ∃ source, sourceOf a = .ok source ∧
        ((c.find? (fs.canonical source.path) = some s ∧ d = c) ∨
          (c.find? (fs.canonical source.path) = none ∧
            c.read setup (fs.canonical source.path) source.content = .ok s ∧
            d = c.publish fs (fs.canonical source.path) s)) := by
  simp only [← scanSource_eq_ok_iff]
  constructor
  · intro h
    unfold scanItem at h
    split at h
    · rename_i source hsource
      exact ⟨source, hsource, h⟩
    · cases h
  · rintro ⟨source, hsource, h⟩
    simp only [scanItem, hsource, h]

/-- A catalog that agrees accepts the same items. -/
theorem AcceptsAll.agrees (h : AcceptsAll setup fs sourceOf c es c₂) (hcd : c.Agrees d) :
    ∃ d₂, AcceptsAll setup fs sourceOf d es d₂ ∧ c₂.Agrees d₂ := by
  induction h generalizing d with
  | nil c => exact ⟨d, .nil d, hcd⟩
  | @cons c c₁ c₂ a s es hitem hrest ih =>
    have hstep : ∃ d₁, d.scanItem setup fs sourceOf a = (d₁, .ok s) ∧ c₁.Agrees d₁ := by
      unfold scanItem at hitem ⊢
      split at hitem
      · rename_i source hsource
        rcases hcd.scanSource setup fs source with ⟨hafter, hsame⟩
        rw [hitem] at hafter hsame
        exact ⟨_, Prod.ext rfl hsame.symm, hafter⟩
      · cases hitem
    rcases hstep with ⟨d₁, hd, hagree⟩
    rcases ih hagree with ⟨d₂, hrest', hagree'⟩
    exact ⟨d₂, .cons hd hrest', hagree'⟩

/-! ## Two items -/

/-- The functions of a script that can be read had free keys, and belong to the script. -/
theorem free_of_read {key : Path} {content : Text} (h : c.read setup key content = .ok s) {f : Func}
    (hf : f ∈ s.publicFuncs) :
    FreeFor (c.functions.lookup ·) key f.key ∧ ∃ g, f = .declared g ∧ g.script = key := by
  rcases holds_of_read h with ⟨decls, main, hholds, hfree⟩
  rw [hholds.publicFuncs_eq] at hf
  rcases List.mem_map.1 hf with ⟨g, hg, rfl⟩
  exact ⟨hfree g hg, g, rfl, hholds.owned g hg⟩

/-- A script that is accepted behind another one has no key that the other one has added. -/
theorem lookup_ne_none_of_shared {key key' : Path} {content content' : Text}
    (hkeys : key.same key' = false) (hs : c.read setup key content = .ok s)
    (ht : (c.publish fs key s).read setup key' content' = .ok t) {f g : Func}
    (hf : f ∈ s.publicFuncs) (hg : g ∈ t.publicFuncs) (hfg : f.key = g.key) :
    c.functions.lookup f.key ≠ none := by
  intro hnone
  -- the function that the first script has added under the key
  have hsome : (s.publicFuncs.find? (·.key == f.key)).isSome :=
    List.find?_isSome.2 ⟨f, hf, beq_self_eq_true f.key⟩
  rcases Option.isSome_iff_exists.1 hsome with ⟨f', hf'⟩
  have hadded : (c.publish fs key s).functions.lookup f.key = some f' := by
    rw [lookup_publish, hnone, hf']
    rfl
  -- it belongs to the first script, so its key is not free for the second
  rcases free_of_read hs (List.mem_of_find?_eq_some hf') with ⟨-, p, rfl, hp⟩
  rcases (free_of_read ht hg).1 (.declared p) (hfg ▸ hadded) with ⟨q, hq, hsame⟩
  cases hq
  rw [hp, hkeys] at hsame
  cases hsame

/-- Two items that stand side by side may change places. -/
theorem AcceptsAll.swap (hapart : Apart fs sourceOf a b)
    (ha : c.scanItem setup fs sourceOf a = (c₁, .ok s))
    (hb : c₁.scanItem setup fs sourceOf b = (c₂, .ok t)) :
    ∃ d₁ d₂, c.scanItem setup fs sourceOf b = (d₁, .ok t) ∧
      d₁.scanItem setup fs sourceOf a = (d₂, .ok s) ∧ c₂.Agrees d₂ := by
  rcases scanItem_eq_ok_iff.1 ha with ⟨sa, hsa, ha⟩
  rcases scanItem_eq_ok_iff.1 hb with ⟨sb, hsb, hb⟩
  have hkeys := hapart sa sb hsa hsb
  have hkeys' := hapart.symm sb sa hsb hsa
  -- whether the other item has been published makes no difference to what is found
  have hfound : ∀ {k k' : Path} {u : Script}, k.same k' = false →
      (c.publish fs k u).find? k' = c.find? k' := by
    intro k k' u hk
    rw [find?_publish, hk]
    simp
  rcases ha with ⟨hfa, rfl⟩ | ⟨hfa, hra, rfl⟩
  · -- the first item is known already
    rcases hb with ⟨hfb, rfl⟩ | ⟨hfb, hrb, rfl⟩
    · exact ⟨_, _, scanItem_eq_ok_iff.2 ⟨sb, hsb, .inl ⟨hfb, rfl⟩⟩,
        scanItem_eq_ok_iff.2 ⟨sa, hsa, .inl ⟨hfa, rfl⟩⟩, .refl _⟩
    · exact ⟨_, _, scanItem_eq_ok_iff.2 ⟨sb, hsb, .inr ⟨hfb, hrb, rfl⟩⟩,
        scanItem_eq_ok_iff.2 ⟨sa, hsa, .inl ⟨(hfound hkeys').trans hfa, rfl⟩⟩, .refl _⟩
  · rcases hb with ⟨hfb, rfl⟩ | ⟨hfb, hrb, rfl⟩
    · -- the second item is known already
      exact ⟨_, _, scanItem_eq_ok_iff.2 ⟨sb, hsb, .inl ⟨(hfound hkeys).symm.trans hfb, rfl⟩⟩,
        scanItem_eq_ok_iff.2 ⟨sa, hsa, .inr ⟨hfa, hra, rfl⟩⟩, .refl _⟩
    · -- both are new
      have hshared : ∀ f ∈ s.publicFuncs, ∀ g ∈ t.publicFuncs, f.key = g.key →
          c.functions.lookup f.key ≠ none :=
        fun f hf g hg hfg => lookup_ne_none_of_shared hkeys hra hrb hf hg hfg
      have hrb' : c.read setup (fs.canonical sb.path) sb.content = .ok t := by
        refine read_congr hrb ?_
        intro g hg g' hg'
        change c.functions.lookup g.key = some g' at hg'
        refine (free_of_read hrb hg).1 g' ?_
        show (c.publish fs (fs.canonical sa.path) s).functions.lookup g.key = some g'
        rw [lookup_publish, hg']
        rfl
      have hra' : (c.publish fs (fs.canonical sb.path) t).read setup (fs.canonical sa.path)
          sa.content = .ok s := by
        refine read_congr hra ?_
        intro f hf f' hf'
        change (c.publish fs (fs.canonical sb.path) t).functions.lookup f.key = some f' at hf'
        rw [lookup_publish] at hf'
        cases hold : c.functions.lookup f.key with
        | some f₀ =>
          -- taken before both of them, by the same function
          rw [hold] at hf'
          exact (free_of_read hra hf).1 f' (hold.trans hf')
        | none =>
          -- taken by the second script only, which cannot be
          rw [hold, Option.none_or] at hf'
          have hkey : f'.key = f.key := by simpa using List.find?_some hf'
          exact absurd hold (hshared f hf f' (List.mem_of_find?_eq_some hf') hkey.symm)
      exact ⟨_, _, scanItem_eq_ok_iff.2
          ⟨sb, hsb, .inr ⟨(hfound hkeys).symm.trans hfb, hrb', rfl⟩⟩,
        scanItem_eq_ok_iff.2 ⟨sa, hsa, .inr ⟨(hfound hkeys').trans hfa, hra', rfl⟩⟩,
        publish_comm hkeys hshared⟩

/-! ## Any number of items -/

/-- Items that are accepted in one order are accepted in every other, with the same scripts, and
the catalogs afterwards agree. The induction is on the permutation; only the exchange of two
neighbours needs that they are apart. -/
theorem AcceptsAll.perm (h : AcceptsAll setup fs sourceOf c es d) (hperm : es.Perm es')
    (hapart : (es.map (·.1)).Pairwise (Apart fs sourceOf)) :
    ∃ d', AcceptsAll setup fs sourceOf c es' d' ∧ d.Agrees d' := by
  induction hperm generalizing c d with
  | nil => exact ⟨d, h, .refl d⟩
  | @cons x es es' hperm ih =>
    cases h with
    | cons hitem hrest =>
      rcases ih hrest (List.pairwise_cons.1 hapart).2 with ⟨d', hrest', hagree⟩
      exact ⟨d', .cons hitem hrest', hagree⟩
  | swap x y es =>
    -- the catalogs behind the two agree, and so the rest is accepted as well
    rcases x with ⟨b, t⟩
    cases h with
    | cons hy h =>
      cases h with
      | cons hx hrest =>
        have hyx := (List.pairwise_cons.1 hapart).1 b (List.mem_cons_self ..)
        rcases AcceptsAll.swap hyx hy hx with ⟨d₁, d₂, hx', hy', hagree⟩
        rcases hrest.agrees hagree with ⟨d', hrest', hagree'⟩
        exact ⟨d', .cons hx' (.cons hy' hrest'), hagree'⟩
  | trans hperm₁ hperm₂ ih₁ ih₂ =>
    -- being apart does not depend on the order
    rcases ih₁ h hapart with ⟨d₁, h₁, hagree₁⟩
    have hapart₁ := ((hperm₁.map (·.1)).pairwise_iff Apart.symm).1 hapart
    rcases ih₂ h₁ hapart₁ with ⟨d₂, h₂, hagree₂⟩
    exact ⟨d₂, h₂, hagree₁.trans hagree₂⟩

end Catalog

end ScriptScan
