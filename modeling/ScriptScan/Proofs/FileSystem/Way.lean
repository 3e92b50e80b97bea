import Mathlib.Data.List.Induction
import ScriptScan.FileSystem
import ScriptScan.Proofs.FuncTable
import ScriptScan.Proofs.Path.Legs

/-!
# Ways through a file system

Following a path is a chain of steps from directory to directory, with the steps of a link put in
place of the link. `FileSystem.Leads` has one constructor for each thing that a step can do, and
`FileSystem.follow_eq_some_iff` ties it to the function; what is said about ways here is proved by
induction on it.

* `FileSystem.Leads.standsAt` — a way ends at a file or a directory, and the place where it ends
  has no links on it (`FileSystem.node?_above`).
* `FileSystem.Leads.descend`, `FileSystem.Leads.ascend` — where no links are, a way goes to the
  place that the names say; `FileSystem.Leads.split` cuts a way anywhere.
* `FileSystem.find?_joinAll` — so what stands below a directory is found by the path of the
  directory with the names behind it.
* `Step.Thins` says that some steps are others without the stays among them; they lead to the same
  place (`FileSystem.Leads.of_thins`).
-/

namespace ScriptScan

namespace FileSystem

variable {fs : FileSystem} {opens : Path → Bool} {links : Nat} {here there : Place}
  {steps rest : List Step}

/-! ## Places -/

/-- Whether a file or a directory stands at a place. -/
def StandsAt (fs : FileSystem) (p : Place) : Prop :=
  ∃ n, fs.node? p = some n ∧ ∀ target, n ≠ .link target

theorem standsAt_of_directory {p : Place} (h : fs.node? p = some .directory) : fs.StandsAt p :=
  ⟨.directory, h, nofun⟩

theorem node?_nil (fs : FileSystem) : fs.node? [] = some .directory :=
  rfl

theorem node?_eq_some_iff {p : Place} {n : Node} (hp : p ≠ []) :
    fs.node? p = some n ↔ (p, n) ∈ fs.nodes := by
  unfold node? nodeIn
  rw [if_neg (by simpa using hp), FuncTable.lookup_eq_some_iff_mem fs.isTree.nodup]

/-- What stands somewhere stands in a directory. -/
theorem node?_dropLast {p : Place} {n : Node} (h : fs.node? p = some n) (hp : p ≠ []) :
    fs.node? p.dropLast = some .directory :=
  fs.isTree.parent _ ((node?_eq_some_iff hp).1 h)

/-- And all that is above it are directories. -/
theorem node?_above {p q : Place} {n : Node} (h : fs.node? (p ++ q) = some n) (hq : q ≠ []) :
    fs.node? p = some .directory := by
  induction q using List.reverseRecOn generalizing n with
  | nil => exact absurd rfl hq
  | append_singleton q t ih =>
    have hparent : fs.node? (p ++ (q ++ [t])).dropLast = some .directory :=
      node?_dropLast h (by simp)
    rw [← List.append_assoc, List.dropLast_concat] at hparent
    by_cases hnil : q = []
    · rwa [hnil, List.append_nil] at hparent
    · exact ih hparent hnil

/-- The names that lead to something can be names. -/
theorem isName_of_mem {p : Place} {n : Node} (h : fs.node? p = some n) {t : Text} (ht : t ∈ p) :
    isName t = true := by
  have hall := fs.isTree.names _ ((node?_eq_some_iff (List.ne_nil_of_mem ht)).1 h)
  exact List.all_eq_true.1 hall t ht

/-- What is below a directory is what stands behind it, by one name or more. -/
theorem mem_below_iff {dir : Place} {names : List Text} {n : Node} :
    (names, n) ∈ fs.below dir ↔ names ≠ [] ∧ fs.node? (dir ++ names) = some n := by
  simp only [below, List.mem_filterMap, Prod.exists]
  constructor
  · rintro ⟨place, node, hmem, h⟩
    split at h
    · rename_i hbelow
      rw [Bool.and_eq_true, List.isPrefixOf_iff_prefix, bne_iff_ne] at hbelow
      obtain ⟨⟨rest, rfl⟩, hne⟩ := hbelow
      rw [List.drop_left, Option.some.injEq, Prod.mk.injEq] at h
      obtain ⟨rfl, rfl⟩ := h
      exact ⟨by simpa using hne, (node?_eq_some_iff (fs.isTree.ne_root _ hmem)).2 hmem⟩
    · cases h
  · rintro ⟨hne, hnode⟩
    refine ⟨dir ++ names, n, (node?_eq_some_iff (by simp [hne])).1 hnode, ?_⟩
    rw [if_pos (by simp [hne]), List.drop_left]

/-! ## Ways -/

/-- Where the steps of a link begin that stands in a directory. -/
def linkStart (target : Text) (here : Place) : Place :=
  if target.head? = some '/' then [] else here

/-- Whether some steps lead from one place to another, following at most `links` links. -/
inductive Leads (fs : FileSystem) (opens : Path → Bool) :
    Nat → Place → List Step → Place → Prop where
  | done {links : Nat} {here : Place} : Leads fs opens links here [] here
  | stay {links : Nat} {here there : Place} {rest : List Step}
      (hdir : fs.node? here = some .directory) (h : Leads fs opens links here rest there) :
      Leads fs opens links here (.stay :: rest) there
  | up {links : Nat} {here there : Place} {rest : List Step}
      (hdir : fs.node? here = some .directory) (h : Leads fs opens links here.dropLast rest there) :
      Leads fs opens links here (.up :: rest) there
  | link {links : Nat} {here there : Place} {rest : List Step} {n target : Text}
      (hdir : fs.node? here = some .directory) (hnode : fs.node? (here ++ [n]) = some (.link target))
      (hopens : opens (Path.ofNames (here ++ [n])) = true)
      (h : Leads fs opens links (linkStart target here) (Step.ofText target ++ rest) there) :
      Leads fs opens (links + 1) here (.into n :: rest) there
  | into {links : Nat} {here there : Place} {rest : List Step} {n : Text}
      (hdir : fs.node? here = some .directory) (hnode : fs.StandsAt (here ++ [n]))
      (hopens : opens (if Step.askDirectory rest then (Path.ofNames (here ++ [n])).join ⟨[]⟩
        else Path.ofNames (here ++ [n])) = true)
      (h : Leads fs opens links (here ++ [n]) rest there) :
      Leads fs opens links here (.into n :: rest) there

theorem leads_of_follow (h : fs.follow opens links here steps = some (there, [])) :
    fs.Leads opens links here steps there := by
  fun_induction fs.follow opens links here steps with
  | case1 =>
    cases h
    exact .done
  | case2 _ _ _ hdir ih => exact .stay hdir (ih h)
  | case3 _ _ _ hdir ih => exact .up hdir (ih h)
  | case4 => cases h
  | case5 => cases h
  | case6 here rest hdir n hereN target hnode links hopens start ih =>
    exact .link hdir hnode hopens (ih h)
  | case7 => cases h
  | case8 links here rest hdir n hereN node hne hnode path hopens ih =>
    exact .into hdir ⟨node, hnode, hne⟩ hopens (ih h)
  | case9 => cases h
  | case10 => cases h

theorem Leads.follow_eq (h : fs.Leads opens links here steps there) :
    fs.follow opens links here steps = some (there, []) := by
  induction h with
  | done => rw [follow]
  | stay hdir _ ih => rw [follow, if_pos hdir, ih]
  | up hdir _ ih => rw [follow, if_pos hdir, ih]
  | link hdir hnode hopens _ ih =>
    rw [follow, if_pos hdir]
    simp only [hnode, hopens, if_true]
    exact ih
  | @into _ here _ rest n hdir hnode hopens _ ih =>
    obtain ⟨node, hnode, hne⟩ := hnode
    rw [follow, if_pos hdir]
    cases node with
    | link target => exact absurd rfl (hne target)
    | file content =>
      simp only [hnode, hopens, if_true]
      exact ih
    | directory =>
      simp only [hnode, hopens, if_true]
      exact ih

/-- The steps that are followed to their end are the ones that lead there. -/
theorem follow_eq_some_iff :
    fs.follow opens links here steps = some (there, []) ↔ fs.Leads opens links here steps there :=
  ⟨leads_of_follow, Leads.follow_eq⟩

namespace Leads

/-- A way ends at a file or a directory. -/
theorem standsAt (h : fs.Leads opens links here steps there) (hhere : fs.StandsAt here) :
    fs.StandsAt there := by
  induction h with
  | done => exact hhere
  | stay _ _ ih => exact ih hhere
  | @up _ here _ _ hdir _ ih =>
    refine ih ?_
    by_cases hroot : here = []
    · rw [hroot]
      exact standsAt_of_directory fs.node?_nil
    · exact standsAt_of_directory (node?_dropLast hdir hroot)
  | link hdir _ _ _ ih =>
    refine ih ?_
    unfold linkStart
    split
    · exact standsAt_of_directory fs.node?_nil
    · exact standsAt_of_directory hdir
  | into _ hnode _ _ ih => exact ih hnode

/-- A way with a step begins in a directory. -/
theorem directory_of_ne_nil (h : fs.Leads opens links here steps there) (hsteps : steps ≠ []) :
    fs.node? here = some .directory := by
  cases h with
  | done => exact absurd rfl hsteps
  | stay hdir | up hdir | link hdir | into hdir => exact hdir

/-- Staying somewhere goes nowhere. -/
theorem eq_of_stay {c : Prop} [Decidable c]
    (h : fs.Leads opens links here (if c then [.stay] else []) there) :
    there = here := by
  split at h
  · cases h with
    | stay _ hrest =>
      cases hrest
      rfl
  · cases h
    rfl

/-- Names that no link stands at are gone through one by one. -/
theorem descend {ns : List Text} (hns : fs.StandsAt (here ++ ns))
    (h : fs.Leads opens links here (ns.map .into ++ rest) there) :
    fs.Leads opens links (here ++ ns) rest there := by
  induction ns generalizing here with
  | nil => rwa [List.append_nil]
  | cons n ns ih =>
    have hassoc : here ++ n :: ns = here ++ [n] ++ ns := List.append_cons here n ns
    rw [hassoc] at hns ⊢
    cases h with
    | link _ hnode _ _ =>
      -- what stands there is not a link: it is the last name, or a directory
      obtain ⟨node, hlast, hne⟩ := hns
      by_cases hnil : ns = []
      · rw [hnil, List.append_nil, hnode] at hlast
        exact absurd (Option.some.inj hlast).symm (hne _)
      · rw [node?_above hlast hnil] at hnode
        cases hnode
    | into _ _ _ hrest => exact ih hns hrest

/-- If everything may be opened, they can be gone through. -/
theorem ascend {ns : List Text} (hns : fs.StandsAt (here ++ ns))
    (h : fs.Leads (fun _ => true) links (here ++ ns) rest there) :
    fs.Leads (fun _ => true) links here (ns.map .into ++ rest) there := by
  induction ns generalizing here with
  | nil => rwa [List.append_nil] at h
  | cons n ns ih =>
    have hassoc : here ++ n :: ns = here ++ [n] ++ ns := List.append_cons here n ns
    have hdir : fs.node? here = some .directory := by
      obtain ⟨node, hnode, -⟩ := hns
      exact node?_above hnode (List.cons_ne_nil n ns)
    rw [hassoc] at hns h
    have hnext : fs.StandsAt (here ++ [n]) := by
      by_cases hnil : ns = []
      · rwa [hnil, List.append_nil] at hns
      · obtain ⟨node, hnode, -⟩ := hns
        exact standsAt_of_directory (node?_above hnode hnil)
    exact .into hdir hnext rfl (ih hns h)

/-- If everything may be opened, a way can be cut anywhere, and gone on from there otherwise, with the
links that are left. -/
theorem split {a b : List Step} (h : fs.Leads (fun _ => true) links here (a ++ b) there) :
    ∃ links' mid, fs.Leads (fun _ => true) links' mid b there ∧
      ∀ {rest : List Step} {place : Place}, fs.Leads (fun _ => true) links' mid rest place →
        fs.Leads (fun _ => true) links here (a ++ rest) place := by
  generalize hsteps : a ++ b = steps at h
  induction h generalizing a with
  | @done links here =>
    obtain ⟨rfl, rfl⟩ := List.append_eq_nil_iff.1 hsteps
    exact ⟨links, here, .done, id⟩
  | @stay links here there rest hdir h ih =>
    cases a with
    | nil =>
      obtain rfl := hsteps
      exact ⟨links, here, .stay hdir h, id⟩
    | cons s a =>
      obtain ⟨rfl, hrest⟩ := List.cons.inj hsteps
      obtain ⟨links', mid, hmid, hon⟩ := ih hrest
      exact ⟨links', mid, hmid, fun h => .stay hdir (hon h)⟩
  | @up links here there rest hdir h ih =>
    cases a with
    | nil =>
      obtain rfl := hsteps
      exact ⟨links, here, .up hdir h, id⟩
    | cons s a =>
      obtain ⟨rfl, hrest⟩ := List.cons.inj hsteps
      obtain ⟨links', mid, hmid, hon⟩ := ih hrest
      exact ⟨links', mid, hmid, fun h => .up hdir (hon h)⟩
  | @link links here there rest n target hdir hnode hopens h ih =>
    cases a with
    | nil =>
      obtain rfl := hsteps
      exact ⟨links + 1, here, .link hdir hnode hopens h, id⟩
    | cons s a =>
      -- the steps of the link stand before those that are left of the first part
      obtain ⟨rfl, rfl⟩ := List.cons.inj hsteps
      obtain ⟨links', mid, hmid, hon⟩ := ih (a := Step.ofText target ++ a) (List.append_assoc ..)
      refine ⟨links', mid, hmid, fun h => .link hdir hnode rfl ?_⟩
      have hlonger := hon h
      rwa [List.append_assoc] at hlonger
  | @into links here there rest n hdir hnode hopens h ih =>
    cases a with
    | nil =>
      obtain rfl := hsteps
      exact ⟨links, here, .into hdir hnode hopens h, id⟩
    | cons s a =>
      obtain ⟨rfl, hrest⟩ := List.cons.inj hsteps
      obtain ⟨links', mid, hmid, hon⟩ := ih hrest
      exact ⟨links', mid, hmid, fun h => .into hdir hnode rfl (hon h)⟩

end Leads

end FileSystem

/-! ## Stays -/

namespace Step

/-- Whether the second steps are the first ones without some stays that others come behind. -/
inductive Thins : List Step → List Step → Prop where
  | nil : Thins [] []
  | cons {a b : List Step} (s : Step) (h : Thins a b) : Thins (s :: a) (s :: b)
  | stay {a b : List Step} (h : Thins a b) (hb : b ≠ []) : Thins (.stay :: a) b

namespace Thins

variable {a b : List Step}

theorem refl : ∀ a : List Step, Thins a a
  | [] => .nil
  | s :: a => .cons s (refl a)

theorem append_left (h : Thins a b) : ∀ c : List Step, Thins (c ++ a) (c ++ b)
  | [] => h
  | s :: c => .cons s (append_left h c)

theorem eq_nil_iff (h : Thins a b) : a = [] ↔ b = [] := by
  cases h with
  | nil => exact Iff.rfl
  | cons s _ => simp
  | stay _ hb => simp [hb]

/-- All stays may be left out but those at the end. -/
theorem of_filter (steps : List Step) {last : List Step} (hlast : last ≠ []) :
    Thins (steps ++ last) (steps.filter (· ≠ .stay) ++ last) := by
  induction steps with
  | nil => exact refl last
  | cons s steps ih =>
    by_cases hs : s = .stay
    · subst hs
      exact .stay ih (by simp [hlast])
    · rw [List.filter_cons_of_pos (by simpa using hs)]
      exact .cons s ih

theorem askDirectory_eq (h : Thins a b) : askDirectory a = askDirectory b := by
  have hstay : ∀ c : List Step, c ≠ [] → askDirectory (.stay :: c) = askDirectory c := by
    intro c hc
    cases c with
    | nil => exact absurd rfl hc
    | cons s c => rfl
  induction h with
  | nil => rfl
  | @cons a b s hab ih =>
    cases s with
    | up => rfl
    | into n => rfl
    | stay =>
      by_cases hb : b = []
      · rw [hb, hab.eq_nil_iff.2 hb]
      · rw [hstay a fun ha => hb (hab.eq_nil_iff.1 ha), hstay b hb, ih]
  | @stay a b hab hb ih => rw [hstay a fun ha => hb (hab.eq_nil_iff.1 ha), ih]

/-- The first step that is left comes behind stays. -/
theorem exists_of_cons {s : Step} (h : Thins a (s :: b)) :
    ∃ k a', a = List.replicate k .stay ++ s :: a' ∧ Thins a' b := by
  generalize hsb : s :: b = sb at h
  induction h with
  | nil => cases hsb
  | @cons a b' s' hab _ =>
    cases hsb
    exact ⟨0, a, rfl, hab⟩
  | stay _ _ ih =>
    obtain ⟨k, a', rfl, hab⟩ := ih hsb
    exact ⟨k + 1, a', rfl, hab⟩

end Thins

end Step

namespace FileSystem.Leads

variable {fs : FileSystem} {opens : Path → Bool} {links : Nat} {here there : Place}
  {a b : List Step}

theorem stays (hdir : fs.node? here = some .directory) (h : fs.Leads opens links here a there)
    (k : Nat) : fs.Leads opens links here (List.replicate k .stay ++ a) there := by
  induction k with
  | zero => exact h
  | succ k ih => exact .stay hdir ih

/-- Stays that others come behind make no difference: every step asks for a directory. -/
theorem of_thins (h : fs.Leads opens links here b there) (ht : Step.Thins a b) :
    fs.Leads opens links here a there := by
  induction h generalizing a with
  | done =>
    rw [ht.eq_nil_iff.2 rfl]
    exact .done
  | stay hdir _ ih =>
    obtain ⟨k, a', rfl, ht'⟩ := ht.exists_of_cons
    exact stays hdir (.stay hdir (ih ht')) k
  | up hdir _ ih =>
    obtain ⟨k, a', rfl, ht'⟩ := ht.exists_of_cons
    exact stays hdir (.up hdir (ih ht')) k
  | link hdir hnode hopens _ ih =>
    obtain ⟨k, a', rfl, ht'⟩ := ht.exists_of_cons
    exact stays hdir (.link hdir hnode hopens (ih (ht'.append_left _))) k
  | into hdir hnode hopens _ ih =>
    obtain ⟨k, a', rfl, ht'⟩ := ht.exists_of_cons
    rw [← ht'.askDirectory_eq] at hopens
    exact stays hdir (.into hdir hnode hopens (ih ht')) k

end FileSystem.Leads

/-! ## Paths -/

namespace FileSystem

variable {fs : FileSystem} {p : Path} {place : Place} {names : List Text}

theorem find?_eq_some_iff : fs.find? p = some place ↔ p.text ≠ [] ∧
    fs.Leads (fun _ => true) maxLinks (fs.startOf p.text) (Step.ofText p.text) place := by
  unfold find? walk
  by_cases hp : p.text = []
  · simp [hp]
  · simp only [List.isEmpty_iff, hp, if_false, ne_eq, not_false_eq_true, true_and,
      ← follow_eq_some_iff]
    split
    · rename_i hfollow
      simp [hfollow]
    · rename_i hnone
      exact iff_of_false nofun (hnone place)

/-- What stands behind a place is found by the path of the place with the names behind it. -/
theorem find?_joinAll (h : fs.find? p = some place) (hnames : fs.StandsAt (place ++ names))
    (hne : names ≠ []) : fs.find? (p.joinAll (names.map .name)) = some (place ++ names) := by
  obtain ⟨hp, hleads⟩ := find?_eq_some_iff.1 h
  have hall : ∀ n ∈ names, isName n = true := by
    obtain ⟨node, hnode, -⟩ := hnames
    exact fun n hn => isName_of_mem hnode (List.mem_append_right place hn)
  have hlegs : ∀ n ∈ names, Text.IsLeg n := fun n hn => Text.isLeg_of_isName (hall n hn)
  have hcomponents : names.map Component.name = names.map Component.ofLeg :=
    List.map_congr_left fun n hn => (Component.ofLeg_of_isName (hall n hn)).symm
  have hsteps : names.map Step.ofLeg = names.map .into :=
    List.map_congr_left fun n hn => Step.ofLeg_of_isName (hall n hn)
  have htext : (p.joinAll (names.map Component.ofLeg)).text ≠ [] := (Path.stem_joinAll hp hlegs).1
  -- a slash at the end of the path makes one step more, which is left out
  rw [Step.ofText_eq] at hleads
  obtain ⟨links', mid, hmid, hon⟩ := hleads.split
  obtain rfl := hmid.eq_of_stay
  rw [hcomponents, find?_eq_some_iff, Path.ofText_joinAll hp hlegs hne, hsteps, startOf,
    Path.head?_joinAll hp hlegs, ← startOf]
  have hdown : fs.Leads (fun _ => true) links' place (names.map .into ++ []) (place ++ names) :=
    Leads.ascend hnames .done
  rw [List.append_nil] at hdown
  exact ⟨htext, hon hdown⟩

end FileSystem

end ScriptScan
