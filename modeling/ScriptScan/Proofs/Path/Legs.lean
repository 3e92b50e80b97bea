import Mathlib.Data.List.Basic
import Mathlib.Data.List.Induction
import ScriptScan.FileSystem
import ScriptScan.Proofs.Path

/-!
# The legs of a path

What counts of a path is what stands between its slashes: its legs. They are the components and the
steps of the path, and building paths puts legs one behind the other.

* `Text.legs_append`, `Text.legs_flatMap` — how legs come out of a text.
* `Path.components_eq`, `Step.ofText_eq` — components and steps are made of the legs.
* `Path.text_joinAll`, `Path.components_joinAll` — what a path looks like, and is made of, that some
  legs have been put behind.
* `Path.Spells` says that a path names places from the root on, with an extra slash at its ends
  perhaps.
-/

namespace ScriptScan

/-! ## Texts between slashes -/

namespace Text

variable {sep : Char} {t a b : Text}

theorem splitOn_ne_nil (sep : Char) (t : Text) : splitOn sep t ≠ [] := by
  cases t with
  | nil => exact List.cons_ne_nil _ _
  | cons c t =>
    rw [splitOn]
    split
    · exact List.cons_ne_nil _ _
    · split <;> exact List.cons_ne_nil _ _

theorem splitOn_cons_self (sep : Char) (t : Text) :
    splitOn sep (sep :: t) = [] :: splitOn sep t :=
  if_pos rfl

theorem splitOn_cons_of_ne {c : Char} (h : c ≠ sep) (t : Text) :
    ∃ p ps, splitOn sep t = p :: ps ∧ splitOn sep (c :: t) = (c :: p) :: ps := by
  obtain ⟨p, ps, hsplit⟩ := List.exists_cons_of_ne_nil (splitOn_ne_nil sep t)
  exact ⟨p, ps, hsplit, by rw [splitOn, if_neg h, hsplit]⟩

theorem splitOn_of_not_mem (h : sep ∉ t) : splitOn sep t = [t] := by
  induction t with
  | nil => rfl
  | cons c t ih =>
    rw [List.mem_cons, not_or] at h
    rw [splitOn, if_neg (Ne.symm h.1), ih h.2]

theorem splitOn_append (a b : Text) :
    splitOn sep (a ++ sep :: b) = splitOn sep a ++ splitOn sep b := by
  induction a with
  | nil => exact splitOn_cons_self sep b
  | cons c a ih =>
    by_cases hc : c = sep
    · rw [hc, List.cons_append, splitOn_cons_self, splitOn_cons_self, ih]
      rfl
    · obtain ⟨p, ps, hsplit, hcons⟩ := splitOn_cons_of_ne hc a
      rw [List.cons_append, splitOn, if_neg hc, ih, hcons, hsplit]
      rfl

theorem not_mem_of_mem_splitOn {p : Text} (h : p ∈ splitOn sep t) : sep ∉ p := by
  induction t generalizing p with
  | nil =>
    rw [List.mem_singleton.1 h]
    exact List.not_mem_nil
  | cons c t ih =>
    by_cases hc : c = sep
    · rw [hc, splitOn_cons_self] at h
      rcases List.mem_cons.1 h with rfl | hp
      · exact List.not_mem_nil
      · exact ih hp
    · obtain ⟨q, qs, hsplit, hcons⟩ := splitOn_cons_of_ne hc t
      rw [hcons] at h
      rw [hsplit] at ih
      rcases List.mem_cons.1 h with rfl | hp
      · rw [List.mem_cons, not_or]
        exact ⟨Ne.symm hc, ih List.mem_cons_self⟩
      · exact ih (List.mem_cons_of_mem q hp)

/-- The last piece is empty only behind a separator, or if there is no text. -/
theorem getLast?_splitOn_eq_nil (h : (splitOn sep t).getLast? = some []) (ht : t ≠ []) :
    t.getLast? = some sep := by
  induction t with
  | nil => exact absurd rfl ht
  | cons c t ih =>
    by_cases hnil : t = []
    · subst hnil
      by_cases hc : c = sep
      · rw [hc]
        rfl
      · rw [splitOn, if_neg hc] at h
        cases h
    · rw [List.getLast?_cons, List.getLast?_eq_some_getLast hnil]
      rw [List.getLast?_eq_some_getLast hnil] at ih
      refine ih ?_ hnil
      by_cases hc : c = sep
      · rw [hc, splitOn_cons_self] at h
        rwa [List.getLast?_cons_of_ne_nil (splitOn_ne_nil sep t)] at h
      · obtain ⟨p, ps, hsplit, hcons⟩ := splitOn_cons_of_ne hc t
        rw [hcons] at h
        rw [hsplit]
        cases ps with
        | nil => cases h
        | cons q qs => exact h

/-- What stands between the slashes of a text, unless that is nothing. -/
def legs (t : Text) : List Text :=
  (splitOn '/' t).filter (· ≠ [])

/-- Whether a text can stand between two slashes. -/
def IsLeg (t : Text) : Prop :=
  t ≠ [] ∧ '/' ∉ t

theorem isLeg_of_mem_legs {leg : Text} (h : leg ∈ t.legs) : IsLeg leg := by
  obtain ⟨hmem, hne⟩ := List.mem_filter.1 h
  exact ⟨of_decide_eq_true hne, not_mem_of_mem_splitOn hmem⟩

theorem legs_append (a b : Text) : (a ++ '/' :: b).legs = a.legs ++ b.legs := by
  rw [legs, splitOn_append, List.filter_append]
  rfl

theorem legs_of_isLeg (h : IsLeg t) : t.legs = [t] := by
  simp [legs, splitOn_of_not_mem h.2, h.1]

theorem legs_flatMap {ns : List Text} (h : ∀ n ∈ ns, IsLeg n) :
    legs (ns.flatMap ('/' :: ·)) = ns := by
  induction ns using List.reverseRecOn with
  | nil => rfl
  | append_singleton ns n ih =>
    obtain ⟨hns, hn⟩ := List.forall_mem_append.1 h
    rw [List.flatMap_append, List.flatMap_singleton, legs_append, ih hns,
      legs_of_isLeg (hn n List.mem_cons_self)]

/-- A text that ends neither in a slash nor in a single dot ends in another leg. -/
theorem exists_legs_concat (ht : t ≠ []) (hslash : t.getLast? ≠ some '/') :
    ∃ front leg, t.legs = front ++ [leg] ∧ (splitOn '/' t).getLast? = some leg := by
  obtain ⟨pieces, leg, hpieces⟩ :=
    (List.eq_nil_or_concat (splitOn '/' t)).resolve_left (splitOn_ne_nil '/' t)
  have hlast : (splitOn '/' t).getLast? = some leg := by
    rw [hpieces, List.concat_eq_append, List.getLast?_concat]
  have hne : leg ≠ [] := by
    rintro rfl
    exact hslash (getLast?_splitOn_eq_nil hlast ht)
  refine ⟨pieces.filter (· ≠ []), leg, ?_, hlast⟩
  rw [legs, hpieces, List.concat_eq_append, List.filter_append,
    List.filter_cons_of_pos (by simpa using hne)]
  rfl

theorem isLeg_of_isName (h : isName t = true) : IsLeg t := by
  simp only [isName, Bool.and_eq_true] at h
  obtain ⟨⟨⟨hne, -⟩, -⟩, hslash⟩ := h
  exact ⟨by simpa using hne, of_decide_eq_true hslash⟩

end Text

/-! ## Components and steps -/

/-- The component that a leg is, if it is not a single dot. -/
def Component.ofLeg (leg : Text) : Component :=
  if leg = ['.', '.'] then .parent else .name leg

theorem Component.text_ofLeg (leg : Text) : (Component.ofLeg leg).text = leg := by
  unfold ofLeg
  split
  · rename_i hdots
    rw [hdots]
    rfl
  · rfl

theorem Component.ofLeg_ne_current (leg : Text) : Component.ofLeg leg ≠ .current := by
  unfold ofLeg
  split <;> nofun

/-- The step that a leg is. -/
def Step.ofLeg (leg : Text) : Step :=
  if leg = ['.'] then .stay else if leg = ['.', '.'] then .up else .into leg

theorem Step.ofLeg_eq_stay_iff {leg : Text} : Step.ofLeg leg = .stay ↔ leg = ['.'] := by
  unfold ofLeg
  constructor
  · intro h
    split at h
    · assumption
    · split at h <;> cases h
  · exact fun h => if_pos h

theorem Step.ofLeg_of_isName {n : Text} (h : isName n = true) : Step.ofLeg n = .into n := by
  simp only [isName, Bool.and_eq_true] at h
  obtain ⟨⟨⟨-, hdot⟩, hdots⟩, -⟩ := h
  rw [ofLeg, if_neg (of_decide_eq_true hdot), if_neg (of_decide_eq_true hdots)]

theorem Component.ofLeg_of_isName {n : Text} (h : isName n = true) :
    Component.ofLeg n = .name n := by
  simp only [isName, Bool.and_eq_true] at h
  exact if_neg (of_decide_eq_true h.1.2)

/-- What passes over some members of a list does something with the others. -/
theorem filterMap_eq_map_filter {α β : Type} {f : α → Option β} {keep : α → Bool} {g : α → β}
    (hdrop : ∀ a, keep a = false → f a = none) (hkeep : ∀ a, keep a = true → f a = some (g a))
    (as : List α) : as.filterMap f = (as.filter keep).map g := by
  induction as with
  | nil => rfl
  | cons a as ih =>
    cases ha : keep a with
    | false =>
      rw [List.filterMap_cons_none (hdrop a ha), ih, List.filter_cons_of_neg (by simp [ha])]
    | true =>
      rw [List.filterMap_cons_some (hkeep a ha), ih, List.filter_cons_of_pos ha, List.map_cons]

/-- The steps of a text are those of its legs, and one more if it ends in a slash. -/
theorem Step.ofText_eq (t : Text) :
    Step.ofText t = t.legs.map Step.ofLeg ++ if t.getLast? = some '/' then [.stay] else [] := by
  unfold ofText
  dsimp only
  have hlegs : ∀ steps : List Step, steps = t.legs.map ofLeg →
      (if t.getLast? = some '/' then steps ++ [.stay] else steps) =
        t.legs.map ofLeg ++ if t.getLast? = some '/' then [.stay] else [] := by
    rintro steps rfl
    split
    · rfl
    · rw [List.append_nil]
  refine hlegs _ (filterMap_eq_map_filter ?_ ?_ _)
  · intro leg hnil
    obtain rfl : leg = [] := by simpa using hnil
    rfl
  · intro leg hne
    split
    · cases hne
    · rfl
    · rfl
    · rename_i hdot hdots
      rw [ofLeg, if_neg hdot, if_neg hdots]

theorem Step.ofText_ne_nil {t : Text} (ht : t ≠ []) : Step.ofText t ≠ [] := by
  rw [ofText_eq]
  by_cases hslash : t.getLast? = some '/'
  · simp [hslash]
  · obtain ⟨front, leg, hlegs, -⟩ := Text.exists_legs_concat ht hslash
    simp [hlegs]

namespace Path

variable {p q : Path} {ns ts : List Text} {t : Text}

/-- The legs that count: single dots do not. -/
def legs (p : Path) : List Text :=
  p.text.legs.filter (· ≠ ['.'])

theorem isLeg_of_mem_legs (h : t ∈ p.legs) : Text.IsLeg t :=
  Text.isLeg_of_mem_legs (List.mem_filter.1 h).1

theorem ne_dot_of_mem_legs (h : t ∈ p.legs) : t ≠ ['.'] :=
  of_decide_eq_true (List.mem_filter.1 h).2

/-- The components of a path are its legs, behind where it begins. -/
theorem components_eq (p : Path) :
    p.components = (if p.isAbsolute then [.root] else if p.startsHere then [.current] else []) ++
      p.legs.map Component.ofLeg := by
  have hpieces : (Text.splitOn '/' p.text).filterMap Component.ofPiece? =
      p.legs.map Component.ofLeg := by
    rw [legs, Text.legs, List.filter_filter]
    refine filterMap_eq_map_filter ?_ ?_ _
    · intro piece hdrop
      by_cases hnil : piece = []
      · rw [hnil]
        rfl
      · obtain rfl : piece = ['.'] := by simpa [hnil] using hdrop
        rfl
    · intro piece hkeep
      obtain ⟨hdot, hnil⟩ : piece ≠ ['.'] ∧ piece ≠ [] := by simpa using hkeep
      unfold Component.ofPiece?
      split
      · exact absurd rfl hnil
      · exact absurd rfl hdot
      · rfl
      · rename_i hdots
        rw [Component.ofLeg, if_neg hdots]
  rw [components, hpieces]

/-! ## Building paths -/

/-- A text without the slash at its end. -/
def stem (t : Text) : Text :=
  if t.getLast? = some '/' then t.dropLast else t

theorem legs_stem (t : Text) : Text.legs (stem t) = t.legs := by
  unfold stem
  split
  · rename_i hslash
    have hlegs := Text.legs_append t.dropLast []
    rw [List.dropLast_append_getLast? '/' hslash] at hlegs
    rw [hlegs]
    exact (List.append_nil _).symm
  · rfl

theorem text_join (hp : p.text ≠ []) (ht : '/' ∉ t) :
    (p.join ⟨t⟩).text = stem p.text ++ '/' :: t := by
  have habs : Path.isAbsolute ⟨t⟩ = false := by
    rw [isAbsolute, beq_eq_false_iff_ne]
    exact fun hhead => ht (List.mem_of_head? hhead)
  unfold join stem
  rw [if_neg (by simp [habs])]
  by_cases hslash : p.text.getLast? = some '/'
  · rw [if_pos (.inr hslash), if_pos hslash, List.append_cons,
      List.dropLast_append_getLast? '/' hslash]
  · rw [if_neg (by simp [hp, hslash]), if_neg hslash]

theorem getLast?_append_leg (ht : Text.IsLeg t) (x : Text) : (x ++ t).getLast? ≠ some '/' := by
  rw [List.getLast?_append_of_ne_nil x ht.1]
  exact fun hlast => ht.2 (List.mem_of_getLast? hlast)

theorem stem_append_leg (ht : Text.IsLeg t) (x : Text) : stem (x ++ t) = x ++ t :=
  if_neg (getLast?_append_leg ht x)

theorem joinAll_concat (p : Path) (ts : List Text) (t : Text) :
    p.joinAll ((ts ++ [t]).map Component.ofLeg) =
      (p.joinAll (ts.map Component.ofLeg)).join ⟨t⟩ := by
  rw [joinAll, List.map_append, List.foldl_append, joinAll]
  simp [Component.text_ofLeg]

/-- Legs that are put behind a path stand there, each with a slash before it. -/
theorem stem_joinAll (hp : p.text ≠ []) (hts : ∀ t ∈ ts, Text.IsLeg t) :
    (p.joinAll (ts.map Component.ofLeg)).text ≠ [] ∧
      stem (p.joinAll (ts.map Component.ofLeg)).text =
        stem p.text ++ ts.flatMap ('/' :: ·) := by
  induction ts using List.reverseRecOn with
  | nil => exact ⟨hp, (List.append_nil _).symm⟩
  | append_singleton ts t ih =>
    obtain ⟨hfront, hlast⟩ := List.forall_mem_append.1 hts
    have ht := hlast t List.mem_cons_self
    obtain ⟨hne, hstem⟩ := ih hfront
    rw [joinAll_concat, text_join hne ht.2, hstem, List.append_cons, stem_append_leg ht,
      List.flatMap_append, List.flatMap_singleton]
    simp

theorem text_joinAll (hp : p.text ≠ []) (hts : ∀ t ∈ ts, Text.IsLeg t) (hne : ts ≠ []) :
    (p.joinAll (ts.map Component.ofLeg)).text = stem p.text ++ ts.flatMap ('/' :: ·) := by
  obtain ⟨front, t, rfl⟩ := (List.eq_nil_or_concat ts).resolve_left hne
  rw [List.concat_eq_append] at hts ⊢
  obtain ⟨hfront, hlast⟩ := List.forall_mem_append.1 hts
  obtain ⟨hjoined, hstem⟩ := stem_joinAll hp hfront
  rw [joinAll_concat, text_join hjoined (hlast t List.mem_cons_self).2, hstem]
  simp

/-- The legs of a path with some more behind it. -/
theorem legs_joinAll (hp : p.text ≠ []) (hts : ∀ t ∈ ts, Text.IsLeg t) :
    Text.legs (p.joinAll (ts.map Component.ofLeg)).text = p.text.legs ++ ts := by
  rw [← legs_stem, (stem_joinAll hp hts).2, ← legs_stem p.text]
  induction ts using List.reverseRecOn with
  | nil => simp
  | append_singleton ts t ih =>
    obtain ⟨hfront, hlast⟩ := List.forall_mem_append.1 hts
    rw [List.flatMap_append, List.flatMap_singleton, ← List.append_assoc, Text.legs_append,
      ih hfront, Text.legs_of_isLeg (hlast t List.mem_cons_self), List.append_assoc]

theorem text_eq_stem (p : Path) : p.text = stem p.text ∨ p.text = stem p.text ++ ['/'] := by
  unfold stem
  split
  · rename_i hslash
    exact .inr (List.dropLast_append_getLast? '/' hslash).symm
  · exact .inl rfl

/-- What is put behind a path leaves it beginning as it did. -/
theorem head?_stem_append (hp : p.text ≠ []) (x : Text) :
    (stem p.text ++ '/' :: x).head? = p.text.head? := by
  rcases text_eq_stem p with h | h
  · rw [← h, List.head?_append_of_ne_nil _ hp]
  · conv => rhs; rw [h]
    cases stem p.text <;> rfl

/-- What the steps of a path are that some legs have been put behind: no slash is left at the end. -/
theorem ofText_joinAll (hp : p.text ≠ []) (hts : ∀ t ∈ ts, Text.IsLeg t) (hne : ts ≠ []) :
    Step.ofText (p.joinAll (ts.map Component.ofLeg)).text =
      p.text.legs.map Step.ofLeg ++ ts.map Step.ofLeg := by
  have hslash : (p.joinAll (ts.map Component.ofLeg)).text.getLast? ≠ some '/' := by
    obtain ⟨front, t, rfl⟩ := (List.eq_nil_or_concat ts).resolve_left hne
    have ht := hts t (by simp)
    rw [text_joinAll hp hts hne, List.concat_eq_append, List.flatMap_append,
      List.flatMap_singleton, List.append_cons, ← List.append_assoc, ← List.append_assoc]
    exact getLast?_append_leg ht _
  rw [Step.ofText_eq, if_neg hslash, legs_joinAll hp hts, List.map_append, List.append_nil]

theorem head?_joinAll (hp : p.text ≠ []) (hts : ∀ t ∈ ts, Text.IsLeg t) :
    (p.joinAll (ts.map Component.ofLeg)).text.head? = p.text.head? := by
  cases ts with
  | nil => rfl
  | cons t ts =>
    rw [text_joinAll hp hts (List.cons_ne_nil t ts), List.flatMap_cons]
    exact head?_stem_append hp _

/-- A name that is put behind a path is one more component. -/
theorem components_join (hp : p.text ≠ []) (ht : isName t = true) :
    (p.join ⟨t⟩).components = p.components ++ [.name t] := by
  have hleg := Text.isLeg_of_isName ht
  have hdot : t ≠ ['.'] := by
    rintro rfl
    cases ht
  have htext := text_join hp hleg.2
  have hlegs : (p.join ⟨t⟩).legs = p.legs ++ [t] := by
    rw [legs, htext, Text.legs_append, legs_stem, Text.legs_of_isLeg hleg, List.filter_append]
    simp [legs, hdot]
  have habsolute : (p.join ⟨t⟩).isAbsolute = p.isAbsolute := by
    rw [isAbsolute, isAbsolute, htext, head?_stem_append hp]
  have hhere : (p.join ⟨t⟩).startsHere = p.startsHere := by
    have hpieces := Text.splitOn_ne_nil '/' (stem p.text)
    rw [startsHere, startsHere, htext, Text.splitOn_append, List.head?_append_of_ne_nil _ hpieces]
    rcases text_eq_stem p with h | h
    · rw [← h]
    · conv => rhs; rw [h, Text.splitOn_append, List.head?_append_of_ne_nil _ hpieces]
  rw [components_eq, components_eq, hlegs, habsolute, hhere, List.map_append, List.append_assoc]
  simp [Component.ofLeg_of_isName ht]

/-- And so are any number of names. -/
theorem components_joinAll (hp : p.text ≠ []) (hns : ∀ n ∈ ns, isName n = true) :
    (p.joinAll (ns.map .name)).components = p.components ++ ns.map .name := by
  induction ns generalizing p with
  | nil => exact (List.append_nil _).symm
  | cons n ns ih =>
    obtain ⟨hn, hns⟩ := List.forall_mem_cons.1 hns
    have hnext : (p.join ⟨n⟩).text ≠ [] := by
      rw [text_join hp (Text.isLeg_of_isName hn).2]
      simp
    have hjoin : p.joinAll ((n :: ns).map .name) = (p.join ⟨n⟩).joinAll (ns.map .name) := rfl
    rw [hjoin, ih hnext hns, components_join hp hn]
    simp

/-! ## Paths from the root on -/

theorem text_ofNames (hns : ns ≠ []) : (ofNames ns).text = ns.flatMap ('/' :: ·) := by
  rw [ofNames, if_neg (by simpa using hns)]

theorem legs_ofNames (hns : ∀ n ∈ ns, Text.IsLeg n) : Text.legs (ofNames ns).text = ns := by
  by_cases hnil : ns = []
  · rw [hnil]
    rfl
  · rw [text_ofNames hnil, Text.legs_flatMap hns]

theorem head?_ofNames (ns : List Text) : (ofNames ns).text.head? = some '/' := by
  cases ns with
  | nil => rfl
  | cons n ns => rfl

theorem text_ofNames_ne_nil (ns : List Text) : (ofNames ns).text ≠ [] := by
  intro h
  have hhead := head?_ofNames ns
  rw [h] at hhead
  cases hhead

theorem stem_ofNames (lead : Text) (hns : ∀ n ∈ ns, Text.IsLeg n) :
    stem (lead ++ (ofNames ns).text) = lead ++ ns.flatMap ('/' :: ·) := by
  rcases List.eq_nil_or_concat ns with rfl | ⟨front, n, rfl⟩
  · simp [ofNames, stem]
  · rw [List.concat_eq_append] at hns ⊢
    have hn := hns n (by simp)
    rw [text_ofNames (by simp), List.flatMap_append, List.flatMap_singleton, List.append_cons,
      ← List.append_assoc, ← List.append_assoc, stem_append_leg hn]

/-- Names that are put behind names. -/
theorem text_joinAll_ofNames (lead : Text) (hns : ∀ n ∈ ns, Text.IsLeg n)
    (hts : ∀ t ∈ ts, Text.IsLeg t) :
    (joinAll ⟨lead ++ (ofNames ns).text⟩ (ts.map Component.ofLeg)).text =
      lead ++ (ofNames (ns ++ ts)).text := by
  by_cases hnil : ts = []
  · rw [hnil, List.append_nil]
    rfl
  · have htext : lead ++ (ofNames ns).text ≠ [] :=
      List.append_ne_nil_of_right_ne_nil lead (text_ofNames_ne_nil ns)
    rw [text_joinAll htext hts hnil, stem_ofNames lead hns, text_ofNames (by simp [hnil]),
      List.flatMap_append, List.append_assoc]

/-- Whether a path names places from the root on. There may be one more slash before them, and
one behind them. -/
def Spells (p : Path) (ns : List Text) : Prop :=
  ∃ lead trail : Text, (lead = [] ∨ lead = ['/']) ∧ (trail = [] ∨ trail = ['/'] ∧ ns ≠ []) ∧
    p.text = lead ++ (ofNames ns).text ++ trail

theorem spells_ofNames (ns : List Text) : (ofNames ns).Spells ns :=
  ⟨[], [], .inl rfl, .inl rfl, (List.append_nil _).symm⟩

namespace Spells

theorem legs_text (h : p.Spells ns) (hns : ∀ n ∈ ns, Text.IsLeg n) : p.text.legs = ns := by
  obtain ⟨lead, trail, hlead, htrail, htext⟩ := h
  have hbefore : Text.legs (lead ++ (ofNames ns).text) = ns := by
    rcases hlead with rfl | rfl
    · exact legs_ofNames hns
    · have hslash := Text.legs_append [] (ofNames ns).text
      rw [legs_ofNames hns] at hslash
      exact hslash
  rw [htext]
  rcases htrail with rfl | ⟨rfl, -⟩
  · rw [List.append_nil, hbefore]
  · rw [Text.legs_append, hbefore]
    exact List.append_nil ns

theorem legs_eq (h : p.Spells ns) (hns : ∀ n ∈ ns, Text.IsLeg n) (hdots : ∀ n ∈ ns, n ≠ ['.']) :
    p.legs = ns := by
  rw [legs, h.legs_text hns, List.filter_eq_self]
  exact fun n hn => decide_eq_true (hdots n hn)

theorem isAbsolute (h : p.Spells ns) : p.isAbsolute = true := by
  obtain ⟨lead, trail, hlead, -, htext⟩ := h
  have hhead : p.text.head? = some '/' := by
    rw [htext, List.append_assoc]
    rcases hlead with rfl | rfl
    · rw [List.nil_append, List.head?_append, head?_ofNames]
      rfl
    · rfl
  rw [Path.isAbsolute, hhead]
  rfl

theorem text_ne_nil (h : p.Spells ns) : p.text ≠ [] := by
  intro hnil
  have habs := h.isAbsolute
  rw [Path.isAbsolute, hnil] at habs
  cases habs

theorem components_eq (h : p.Spells ns) (hns : ∀ n ∈ ns, Text.IsLeg n)
    (hdots : ∀ n ∈ ns, n ≠ ['.']) : p.components = .root :: ns.map Component.ofLeg := by
  rw [Path.components_eq, if_pos h.isAbsolute, h.legs_eq hns hdots]
  rfl

end Spells

end Path

end ScriptScan
