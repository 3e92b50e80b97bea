import ScriptScan.Report.Workers
import ScriptScan.Proofs.Catalog.Order
import ScriptScan.Proofs.Resolution

/-!
# Workers and one after the other

Whatever turns some workers take, they scan the files in some order. So what comes of files that are
accepted one after the other comes of them with workers as well (`AcceptsAll.perm`), and it only
has to be put back in the order of the files.

* `Pool.Traces` is the invariant: the turns so far amount to scanning some files in order, and no
  file has left its chunk.
* `Catalog.scan_order_irrelevant` puts both together: other orders, and workers.
-/

namespace ScriptScan

/-! ## Lists -/

theorem flatten_chunksOf {α : Type} (size : Nat) (as : List α) :
    (chunksOf size as).flatten = as := by
  fun_induction chunksOf size as with
  | case1 => rfl
  | case2 a as ih => simp [ih]

/-- What is a permutation of the images is the image of a permutation. -/
theorem exists_perm_map {α β : Type} {f : α → β} {bs bs' : List β} (h : bs.Perm bs') :
    ∀ as : List α, as.map f = bs' → ∃ as' : List α, as'.Perm as ∧ as'.map f = bs := by
  induction h with
  | nil => exact fun as has => ⟨as, .refl as, has⟩
  | cons b _ ih =>
    intro as has
    rcases List.map_eq_cons_iff.1 has with ⟨a, rest, rfl, rfl, hrest⟩
    rcases ih rest hrest with ⟨as', hperm, hmap⟩
    exact ⟨a :: as', hperm.cons a, by rw [List.map_cons, hmap]⟩
  | swap b b' bs =>
    intro as has
    rcases List.map_eq_cons_iff.1 has with ⟨a, rest, rfl, rfl, hrest⟩
    rcases List.map_eq_cons_iff.1 hrest with ⟨a', rest', rfl, rfl, rfl⟩
    exact ⟨a' :: a :: rest', .swap .., rfl⟩
  | trans _ _ ih ih' =>
    intro as has
    rcases ih' as has with ⟨as₁, hperm₁, hmap₁⟩
    rcases ih as₁ hmap₁ with ⟨as₂, hperm₂, hmap₂⟩
    exact ⟨as₂, hperm₂.trans hperm₁, hmap₂⟩

/-- A permutation that keeps the order of the keys keeps the order, if the keys are different. -/
theorem eq_of_perm_of_keys {α β : Type} {f : α → β} {as as' : List α} (hperm : as.Perm as')
    (hkeys : as.map f = as'.map f) (hnodup : (as.map f).Nodup) : as = as' := by
  induction as generalizing as' with
  | nil => exact hperm.nil_eq
  | cons a as ih =>
    cases as' with
    | nil => cases hkeys
    | cons a' as' =>
      rcases List.cons.inj hkeys with ⟨hhead, htail⟩
      rcases List.nodup_cons.1 hnodup with ⟨hfresh, hrest⟩
      have heq : a = a' := by
        rcases List.mem_cons.1 (hperm.mem_iff.1 (List.mem_cons_self ..)) with h | h
        · exact h
        · -- the key of the first would occur once more
          rw [htail] at hfresh
          exact absurd (List.mem_map_of_mem h) hfresh
      subst heq
      rw [ih ((List.perm_cons a).1 hperm) htail hrest]

/-! ## Files -/

/-- The source that a file is scanned by. -/
def Report.sourceOf (setup : Setup) (fs : FileSystem) (p : Path) : Except Fault Source :=
  Catalog.resolve setup fs .unknown p.text false

variable {setup : Setup} {fs : FileSystem} {c : Catalog}

theorem Catalog.scan_eq_scanItem (c : Catalog) (p : Path) :
    c.scan setup fs .unknown p.text false = c.scanItem setup fs (Report.sourceOf setup fs) p := by
  unfold Catalog.scan Catalog.scanItem Report.sourceOf
  cases Catalog.resolve setup fs .unknown p.text false <;> rfl

theorem Report.scanFiles_eq_scanEach (c : Catalog) (files : List Path) :
    scanFiles setup fs c files = (c.scanEach setup fs (sourceOf setup fs) files).2 := by
  induction files generalizing c with
  | nil => rfl
  | cons p files ih => simp [scanFiles, Catalog.scanEach, Catalog.scan_eq_scanItem, ih]

/-! ## Turns -/

/-- The files of a worker, scanned or not. -/
def Worker.files (w : Worker) : List Path :=
  w.done.map (·.1) ++ w.todo

namespace Pool

variable {pool : Pool} {order : List Path} {chunks : List (List Path)}

/-- What has happened to a pool so far is that some files were scanned in order. -/
structure Traces (setup : Setup) (fs : FileSystem) (c : Catalog) (chunks : List (List Path))
    (order : List Path) (pool : Pool) : Prop where
  catalog_eq : pool.catalog = (c.scanEach setup fs (Report.sourceOf setup fs) order).1
  outcomes_perm :
    pool.outcomes.Perm (c.scanEach setup fs (Report.sourceOf setup fs) order).2
  files_eq : pool.workers.map Worker.files = chunks

/-- A turn does nothing, or takes the next file of one worker. -/
theorem turn_cases (setup : Setup) (fs : FileSystem) (pool : Pool) (i : Nat) :
    pool.turn setup fs i = pool ∨
      ∃ ws p ps done ws', pool.workers = ws ++ ⟨p :: ps, done⟩ :: ws' ∧
        pool.turn setup fs i =
          ⟨(pool.catalog.scan setup fs .unknown p.text false).1,
            ws ++ ⟨ps, done ++ [(p, (pool.catalog.scan setup fs .unknown p.text false).2)]⟩ ::
              ws'⟩ := by
  unfold turn
  split
  · rename_i p ps done hget
    right
    rcases List.getElem?_eq_some_iff.1 hget with ⟨hlt, hw⟩
    refine ⟨pool.workers.take i, p, ps, done, pool.workers.drop (i + 1), ?_, ?_⟩
    · rw [← hw, List.getElem_cons_drop, List.take_append_drop]
    · dsimp only
      rw [List.set_eq_take_append_cons_drop, if_pos hlt]
  · exact .inl rfl

theorem Traces.turn (h : Traces setup fs c chunks order pool) (i : Nat) :
    ∃ order', Traces setup fs c chunks order' (pool.turn setup fs i) := by
  rcases turn_cases setup fs pool i with heq | ⟨ws, p, ps, done, ws', hws, heq⟩
  · rw [heq]
    exact ⟨order, h⟩
  · refine ⟨order ++ [p], ?_, ?_, ?_⟩
    · rw [heq, Catalog.scanEach_append, ← h.catalog_eq, Catalog.scan_eq_scanItem]
      rfl
    · -- the new outcome goes behind the others of its worker, and so before those of later ones
      have hperm := h.outcomes_perm
      rw [heq, Catalog.scanEach_append, ← h.catalog_eq, Catalog.scan_eq_scanItem]
      simp only [outcomes, hws, List.flatMap_append, List.flatMap_cons,
        List.append_assoc] at hperm ⊢
      refine List.Perm.trans ?_ (hperm.append_right _)
      simp only [List.append_assoc]
      exact (List.perm_append_comm.append_left _).append_left _
    · rw [heq, ← h.files_eq, hws]
      simp [Worker.files]

theorem Traces.run (h : Traces setup fs c chunks order pool) (turns : List Nat) :
    ∃ order', Traces setup fs c chunks order' (pool.run setup fs turns) := by
  induction turns generalizing pool order with
  | nil => exact ⟨order, h⟩
  | cons i turns ih =>
    rcases h.turn i with ⟨order', h'⟩
    exact ih h'

theorem traces_start (setup : Setup) (fs : FileSystem) (c : Catalog) (workers : Nat)
    (files : List Path) :
    Traces setup fs c (chunksOf (chunkSize files.length workers) files) []
      (start c workers files) := by
  refine ⟨rfl, ?_, ?_⟩
  · simp [outcomes, start, Catalog.scanEach, List.flatMap_map]
  · simp [start, Worker.files, Function.comp_def]

/-- When no file is left, the outcomes stand in the order of the files. -/
theorem Traces.map_fst_outcomes (h : Traces setup fs c chunks order pool)
    (hdone : pool.isDone = true) : pool.outcomes.map (·.1) = chunks.flatten := by
  have hfiles : ∀ w ∈ pool.workers, Worker.files w = w.done.map (·.1) := by
    intro w hw
    have htodo : w.todo = [] := by simpa using List.all_eq_true.1 hdone w hw
    simp [Worker.files, htodo]
  rw [← h.files_eq, List.map_congr_left hfiles, outcomes, List.map_flatMap, List.flatMap_def]

/-- Workers that have scanned all files come to the same as one after the other. -/
theorem outcomes_eq_scanFiles {workers : Nat} {files : List Path} {turns : List Nat}
    (hapart : files.Pairwise (Catalog.Apart fs (Report.sourceOf setup fs))) (hnodup : files.Nodup)
    (haccepted : ∀ e ∈ Report.scanFiles setup fs c files, e.2.isOk = true)
    (hdone : ((start c workers files).run setup fs turns).isDone = true) :
    ((start c workers files).run setup fs turns).outcomes = Report.scanFiles setup fs c files := by
  rw [Report.scanFiles_eq_scanEach] at haccepted ⊢
  rcases Catalog.acceptsAll_of_isOk haccepted with ⟨es, hes, rfl⟩
  rcases (traces_start setup fs c workers (es.map (·.1))).run turns with ⟨order, htrace⟩
  have hfst := htrace.map_fst_outcomes hdone
  rw [flatten_chunksOf] at hfst
  -- the files were scanned in the order `order`, and accepted in it with the same scripts
  have horder : order.Perm (es.map (·.1)) := by
    have hperm := htrace.outcomes_perm.map (·.1)
    rw [Catalog.map_fst_scanEach, hfst] at hperm
    exact hperm.symm
  rcases exists_perm_map horder es rfl with ⟨es', hperm, rfl⟩
  rcases hes.perm hperm.symm hapart with ⟨d', hes', -⟩
  have hsame : ((start c workers (es.map (·.1))).run setup fs turns).outcomes.Perm
      (c.scanEach setup fs (Report.sourceOf setup fs) (es.map (·.1))).2 := by
    have hturns := htrace.outcomes_perm
    rw [hes'.scanEach_eq] at hturns
    rw [hes.scanEach_eq]
    exact hturns.trans (hperm.map _)
  refine eq_of_perm_of_keys (f := fun e => e.1) hsame ?_ ?_
  · rw [hfst, Catalog.map_fst_scanEach]
  · rw [hfst]
    exact hnodup

end Pool

/-! ## Other orders, and workers -/

namespace Catalog

/-- Sources that are accepted in one order are accepted in every other, with the same scripts. -/
theorem scanEach_perm {α : Type} {sourceOf : α → Except Fault Source} {as as' : List α}
    (hapart : as.Pairwise (Apart fs sourceOf)) (hperm : as.Perm as')
    (haccepted : ∀ e ∈ (c.scanEach setup fs sourceOf as).2, e.2.isOk = true) :
    (∀ e ∈ (c.scanEach setup fs sourceOf as').2, e.2.isOk = true) ∧
      (c.scanEach setup fs sourceOf as').2.Perm (c.scanEach setup fs sourceOf as).2 ∧
      (c.scanEach setup fs sourceOf as).1.Agrees (c.scanEach setup fs sourceOf as').1 := by
  rcases acceptsAll_of_isOk haccepted with ⟨es, hes, rfl⟩
  rcases exists_perm_map hperm.symm es rfl with ⟨es', hperm', rfl⟩
  rcases hes.perm hperm'.symm hapart with ⟨d', hes', hagree⟩
  rw [hes'.scanEach_eq, hes.scanEach_eq]
  rw [hes.scanEach_eq] at hagree
  refine ⟨?_, hperm'.map _, hagree⟩
  intro e he
  rcases List.mem_map.1 he with ⟨e', -, rfl⟩
  rfl

/-- Sources with different canonical paths that are accepted in one order are accepted in every
other: with the same scripts, and so that the catalogs afterwards agree. And files that stand for
such sources come to the same with any number of workers, whatever turns these take, as one after
the other. -/
theorem scan_order_irrelevant {sources sources' : List Source}
    (hkeys : sources.Pairwise fun s t => (fs.canonical s.path).same (fs.canonical t.path) = false)
    (hperm : sources.Perm sources')
    (haccepted : ∀ e ∈ (c.scanEach setup fs .ok sources).2, e.2.isOk = true) :
    (∀ e ∈ (c.scanEach setup fs .ok sources').2, e.2.isOk = true) ∧
      (c.scanEach setup fs .ok sources').2.Perm (c.scanEach setup fs .ok sources).2 ∧
      (c.scanEach setup fs .ok sources).1.Agrees (c.scanEach setup fs .ok sources').1 ∧
      ∀ (files : List Path) (workers : Nat) (turns : List Nat),
        files.map (Report.sourceOf setup fs) = sources.map .ok →
        ((Pool.start c workers files).run setup fs turns).isDone = true →
        ((Pool.start c workers files).run setup fs turns).outcomes =
          Report.scanFiles setup fs c files := by
  have hapart : sources.Pairwise (Apart fs .ok) := by
    refine hkeys.imp ?_
    intro s t hst s' t' hs ht
    cases hs
    cases ht
    exact hst
  rcases scanEach_perm hapart hperm haccepted with ⟨hok, hsame, hagree⟩
  refine ⟨hok, hsame, hagree, ?_⟩
  intro files workers turns hfiles hdone
  have hfilesApart : files.Pairwise (Apart fs (Report.sourceOf setup fs)) := by
    have hmapped : (files.map (Report.sourceOf setup fs)).Pairwise (Apart fs id) := by
      rw [hfiles]
      exact List.pairwise_map.2 hapart
    rw [List.pairwise_map] at hmapped
    exact hmapped
  have hnodup : files.Nodup := by
    refine hfilesApart.imp_of_mem ?_
    intro p q hp _ hpq heq
    subst heq
    have hsource := List.mem_map_of_mem (f := Report.sourceOf setup fs) hp
    rw [hfiles] at hsource
    rcases List.mem_map.1 hsource with ⟨s, -, hs⟩
    have hself := hpq s s hs.symm hs.symm
    rw [Path.same_refl] at hself
    cases hself
  have hfilesAccepted : ∀ e ∈ Report.scanFiles setup fs c files, e.2.isOk = true := by
    intro e he
    rw [Report.scanFiles_eq_scanEach] at he
    have hresult := List.mem_map_of_mem (f := fun e => e.2) he
    rw [map_snd_scanEach_congr hfiles] at hresult
    rcases List.mem_map.1 hresult with ⟨e', he', heq⟩
    rw [← heq]
    exact haccepted e' he'
  exact Pool.outcomes_eq_scanFiles hfilesApart hnodup hfilesAccepted hdone

/-- A host that has a script with one function for every name that is asked for. -/
def oneFuncSetup : Setup :=
  { options := { includeDir := ⟨['/']⟩ }
    resolvers := [fun name =>
      .found ⟨⟨"mem://".toList ++ name⟩, "func ".toList ++ name ++ "()\nendfunc".toList⟩] }

/-- Two scripts in the other order, and two workers of whom the second is first. -/
theorem scan_order_irrelevant_sample :
    (∀ e ∈ ((initial []).scanEach oneFuncSetup (.empty []) .ok
        [⟨⟨"mem://g".toList⟩, "func g()\nendfunc".toList⟩,
          ⟨⟨"mem://f".toList⟩, "func f()\nendfunc".toList⟩]).2, e.2.isOk = true) ∧
      ((Pool.start (initial []) 2 [⟨['f']⟩, ⟨['g']⟩]).run oneFuncSetup (.empty [])
          [1, 0]).outcomes =
        Report.scanFiles oneFuncSetup (.empty []) (initial []) [⟨['f']⟩, ⟨['g']⟩] := by
  have hfiles : [(⟨['f']⟩ : Path), ⟨['g']⟩].map (Report.sourceOf oneFuncSetup (.empty [])) =
      [⟨⟨"mem://f".toList⟩, "func f()\nendfunc".toList⟩,
        ⟨⟨"mem://g".toList⟩, "func g()\nendfunc".toList⟩].map .ok := by
    have hcf : Resolution.candidates ⟨['/']⟩ ['f'] false = [['f'], ['/', 'f']] := by decide
    have hcg : Resolution.candidates ⟨['/']⟩ ['g'] false = [['g'], ['/', 'g']] := by decide
    simp [Report.sourceOf, resolve, resolution, oneFuncSetup, FileSystem.answer_empty, hcf, hcg,
      Resolution.questions, Strategy.available, Resolution.ofQuestions, Strategy.ask,
      Answer.source?, Protocol.refusal?, Protocol.schemes]
  have hkeys : [(⟨⟨"mem://f".toList⟩, "func f()\nendfunc".toList⟩ : Source),
      ⟨⟨"mem://g".toList⟩, "func g()\nendfunc".toList⟩].Pairwise fun s t =>
        ((FileSystem.empty []).canonical s.path).same ((FileSystem.empty []).canonical t.path) =
          false := by
    decide +kernel
  have haccepted : ∀ e ∈ ((initial []).scanEach oneFuncSetup (.empty []) .ok
      [⟨⟨"mem://f".toList⟩, "func f()\nendfunc".toList⟩,
        ⟨⟨"mem://g".toList⟩, "func g()\nendfunc".toList⟩]).2, e.2.isOk = true := by
    rw [← List.all_eq_true]
    decide +kernel
  have hdone : ((Pool.start (initial []) 2 [⟨['f']⟩, ⟨['g']⟩]).run oneFuncSetup (.empty [])
      [1, 0]).isDone = true := by
    decide +kernel
  rcases scan_order_irrelevant hkeys (.swap ..) haccepted with ⟨hok, -, -, hpool⟩
  exact ⟨hok, hpool _ 2 [1, 0] hfiles hdone⟩

end Catalog

end ScriptScan
