import Mathlib.Data.List.Chain
import ScriptScan.Proofs.Path.Legs

/-!
# The absolute form of a path

The absolute form of a path names places from the root on: those of the working directory, unless
the path is absolute already, and then the legs of the path. It is not an address, and taking the
absolute form once more does not change its components.

* `Path.Spells.isAddress_eq` — two slashes stand side by side at the beginning alone.
* `Path.spells_absolute` — what an absolute form names.
* `Path.Spells.same_absolute` — the absolute form of an absolute form is the same path.
* `Path.exists_steps_absolute` — which steps an absolute form has.
-/

namespace ScriptScan

/-- A part that stands somewhere in a text. -/
theorem Text.isInfix_of_includes {t part : Text} (h : t.includes part = true) : part <:+: t := by
  induction t with
  | nil =>
    obtain rfl := List.isEmpty_iff.1 h
    exact List.infix_refl []
  | cons c t ih =>
    rw [includes, Bool.or_eq_true] at h
    rcases h with hprefix | hrest
    · exact (List.isPrefixOf_iff_prefix.1 hprefix).isInfix
    · exact List.infix_cons (ih hrest)

namespace Path

variable {p : Path} {names ns : List Text}

/-! ## No address -/

/-- Whether two characters are not both slashes. -/
def NotBothSlashes (a b : Char) : Prop :=
  ¬(a = '/' ∧ b = '/')

theorem isChain_leg {t : Text} (ht : Text.IsLeg t) : ('/' :: t).IsChain NotBothSlashes := by
  refine List.Pairwise.isChain (List.pairwise_cons.2 ⟨?_, ?_⟩)
  · exact fun b hb hboth => ht.2 (hboth.2 ▸ hb)
  · refine List.pairwise_of_forall_mem_list ?_
    exact fun a ha b _ hboth => ht.2 (hboth.1 ▸ ha)

theorem isChain_append_slash {x y : Text} (hx : x.IsChain NotBothSlashes)
    (hlast : x.getLast? ≠ some '/') (hy : ('/' :: y).IsChain NotBothSlashes) :
    (x ++ '/' :: y).IsChain NotBothSlashes := by
  refine List.isChain_append.2 ⟨hx, hy, ?_⟩
  intro a ha b _ hboth
  rw [hboth.1] at ha
  exact hlast ha

theorem isChain_flatMap (hns : ∀ n ∈ ns, Text.IsLeg n) :
    List.IsChain NotBothSlashes (ns.flatMap ('/' :: ·)) ∧
      (ns.flatMap ('/' :: ·)).getLast? ≠ some '/' := by
  induction ns using List.reverseRecOn with
  | nil => exact ⟨.nil, nofun⟩
  | append_singleton ns n ih =>
    obtain ⟨hfront, hlast⟩ := List.forall_mem_append.1 hns
    have hn := hlast n List.mem_cons_self
    obtain ⟨hchain, hend⟩ := ih hfront
    rw [List.flatMap_append, List.flatMap_singleton]
    refine ⟨isChain_append_slash hchain hend (isChain_leg hn), ?_⟩
    rw [List.append_cons]
    exact getLast?_append_leg hn _

/-- A path that names places from the root on is not written like an address. -/
theorem Spells.isAddress_eq (h : p.Spells ns) (hns : ∀ n ∈ ns, Text.IsLeg n) :
    p.isAddress = false := by
  obtain ⟨lead, trail, hlead, htrail, htext⟩ := h
  obtain ⟨hchain, hend⟩ := isChain_flatMap hns
  have hbehind : ((ofNames ns).text ++ trail).IsChain NotBothSlashes := by
    by_cases hnil : ns = []
    · rcases htrail with rfl | ⟨-, hne⟩
      · rw [hnil]
        exact .singleton _
      · exact absurd hnil hne
    · rw [text_ofNames hnil]
      rcases htrail with rfl | ⟨rfl, -⟩
      · rwa [List.append_nil]
      · exact isChain_append_slash hchain hend (.singleton _)
  rw [Bool.eq_false_iff]
  intro haddress
  have hinfix := Text.isInfix_of_includes haddress
  rw [htext, List.append_assoc] at hinfix
  -- the two slashes of the mark would stand behind the beginning
  have hnot : ¬[':', '/', '/'] <:+: (ofNames ns).text ++ trail := by
    intro hmark
    have hchain := List.IsChain.infix hbehind hmark
    exact List.isChain_pair.1 hchain.tail ⟨rfl, rfl⟩
  rcases hlead with rfl | rfl
  · exact hnot hinfix
  · rcases List.infix_cons_iff.1 hinfix with hprefix | hrest
    · obtain ⟨behind, hcolon⟩ := hprefix
      cases hcolon
    · exact hnot hrest

/-! ## Absolute forms -/

/-- The places that the absolute form of a path names, seen from the given ones. -/
def absoluteLegs (names : List Text) (p : Path) : List Text :=
  if p.isAbsolute then p.legs else names ++ p.legs

theorem isLeg_of_mem_absoluteLegs (hnames : ∀ n ∈ names, Text.IsLeg n) :
    ∀ n ∈ p.absoluteLegs names, Text.IsLeg n := by
  intro n hn
  unfold absoluteLegs at hn
  split at hn
  · exact isLeg_of_mem_legs hn
  · rcases List.mem_append.1 hn with hn | hn
    · exact hnames n hn
    · exact isLeg_of_mem_legs hn

theorem ne_dot_of_mem_absoluteLegs (hnames : ∀ n ∈ names, n ≠ ['.']) :
    ∀ n ∈ p.absoluteLegs names, n ≠ ['.'] := by
  intro n hn
  unfold absoluteLegs at hn
  split at hn
  · exact ne_dot_of_mem_legs hn
  · rcases List.mem_append.1 hn with hn | hn
    · exact hnames n hn
    · exact ne_dot_of_mem_legs hn

theorem filter_components (p : Path) :
    p.components.filter (· ≠ .current) =
      (if p.isAbsolute then [.root] else []) ++ p.legs.map Component.ofLeg := by
  have hlegs : (p.legs.map Component.ofLeg).filter (· ≠ .current) =
      p.legs.map Component.ofLeg := by
    rw [List.filter_eq_self]
    intro c hc
    obtain ⟨leg, -, rfl⟩ := List.mem_map.1 hc
    exact decide_eq_true (Component.ofLeg_ne_current leg)
  rw [components_eq, List.filter_append, hlegs]
  split
  · rfl
  · split <;> rfl

/-- What an absolute form looks like, but for a slash at its end. -/
theorem text_absolute (hnames : ∀ n ∈ names, Text.IsLeg n) (hp : p.text ≠ []) :
    ∃ base : Path, (∃ lead : Text, (lead = [] ∨ lead = ['/']) ∧
        base.text = lead ++ (ofNames (p.absoluteLegs names)).text) ∧
      absolute (ofNames names) p = if p.text.getLast? = some '/' then base.join ⟨[]⟩ else base := by
  have hlegs : ∀ n ∈ p.legs, Text.IsLeg n := fun n hn => isLeg_of_mem_legs hn
  unfold absolute absoluteLegs
  rw [filter_components]
  simp only [List.isEmpty_iff, hp, if_false]
  refine ⟨_, ?_, rfl⟩
  split
  · -- two slashes at the beginning
    rename_i htwo
    have habs : p.isAbsolute = true := by
      obtain ⟨behind, htext⟩ := List.isPrefixOf_iff_prefix.1 (Bool.and_eq_true_iff.1 htwo).1
      rw [isAbsolute, ← htext]
      rfl
    refine ⟨['/'], .inr rfl, ?_⟩
    rw [if_pos habs, if_pos habs]
    exact text_joinAll_ofNames ['/'] (List.forall_mem_nil _) hlegs
  · refine ⟨[], .inl rfl, ?_⟩
    by_cases habs : p.isAbsolute = true
    · rw [if_pos habs, if_pos habs]
      exact text_joinAll_ofNames [] (List.forall_mem_nil _) hlegs
    · rw [if_neg habs, if_neg habs]
      exact text_joinAll_ofNames [] hnames hlegs

/-- The path that a slash is added to, if it does not end in one. -/
theorem text_join_nil {base : Path} {lead : Text} (hns : ∀ n ∈ ns, Text.IsLeg n)
    (hbase : base.text = lead ++ (ofNames ns).text) :
    (base.join ⟨[]⟩).text = lead ++ ns.flatMap ('/' :: ·) ++ ['/'] := by
  have hne : base.text ≠ [] :=
    hbase ▸ List.append_ne_nil_of_right_ne_nil lead (text_ofNames_ne_nil ns)
  rw [text_join hne List.not_mem_nil, hbase, stem_ofNames lead hns]

theorem spells_absolute (hnames : ∀ n ∈ names, Text.IsLeg n) (hp : p.text ≠ []) :
    (absolute (ofNames names) p).Spells (p.absoluteLegs names) := by
  have hns := isLeg_of_mem_absoluteLegs (p := p) hnames
  obtain ⟨base, ⟨lead, hlead, hbase⟩, habsolute⟩ := text_absolute hnames hp
  rw [habsolute]
  by_cases hslash : p.text.getLast? = some '/'
  · rw [if_pos hslash]
    by_cases hnil : p.absoluteLegs names = []
    · refine ⟨lead, [], hlead, .inl rfl, ?_⟩
      rw [text_join_nil hns hbase, hnil]
      simp [ofNames]
    · refine ⟨lead, ['/'], hlead, .inr ⟨rfl, hnil⟩, ?_⟩
      rw [text_join_nil hns hbase, text_ofNames hnil]
  · rw [if_neg hslash]
    exact ⟨lead, [], hlead, .inl rfl, by rw [hbase, List.append_nil]⟩

/-- An absolute form ends in a slash if the path does. -/
theorem getLast?_absolute_of_slash (hnames : ∀ n ∈ names, Text.IsLeg n)
    (hslash : p.text.getLast? = some '/') :
    (absolute (ofNames names) p).text.getLast? = some '/' := by
  have hp : p.text ≠ [] := List.ne_nil_of_mem (List.mem_of_getLast? hslash)
  obtain ⟨base, ⟨lead, -, hbase⟩, habsolute⟩ := text_absolute hnames hp
  rw [habsolute, if_pos hslash, text_join_nil (isLeg_of_mem_absoluteLegs hnames) hbase,
    List.getLast?_concat]

/-- If the path ends in a leg that counts, so does its absolute form. -/
theorem getLast?_absolute_of_not_slash (hnames : ∀ n ∈ names, Text.IsLeg n)
    (hslash : p.text.getLast? ≠ some '/') (hlegs : p.legs ≠ []) :
    (absolute (ofNames names) p).text.getLast? ≠ some '/' := by
  have hp : p.text ≠ [] := by
    intro hnil
    rw [legs, hnil] at hlegs
    exact hlegs rfl
  have hne : p.absoluteLegs names ≠ [] := by
    unfold absoluteLegs
    split
    · exact hlegs
    · exact fun h => hlegs (List.append_eq_nil_iff.1 h).2
  have hlast := (isChain_flatMap (isLeg_of_mem_absoluteLegs (p := p) hnames)).2
  obtain ⟨base, ⟨lead, -, hbase⟩, habsolute⟩ := text_absolute hnames hp
  rw [habsolute, if_neg hslash, hbase,
    List.getLast?_append_of_ne_nil lead (text_ofNames_ne_nil _), text_ofNames hne]
  exact hlast

/-- A path that names places from the root on is the same path as its absolute form. -/
theorem Spells.same_absolute (h : p.Spells ns) (hnames : ∀ n ∈ names, Text.IsLeg n)
    (hns : ∀ n ∈ ns, Text.IsLeg n) (hdots : ∀ n ∈ ns, n ≠ ['.']) :
    (absolute (ofNames names) p).same p = true := by
  have habsolute := spells_absolute hnames h.text_ne_nil
  rw [absoluteLegs, if_pos h.isAbsolute, h.legs_eq hns hdots] at habsolute
  rw [same_iff, habsolute.components_eq hns hdots, h.components_eq hns hdots]

/-- The steps of an absolute form are those of the path, seen from the root, without the stays among
them: if the path does not end in a single dot, they end like those of the path. -/
theorem exists_steps_absolute (hnames : ∀ n ∈ names, isName n = true) (hp : p.text ≠ [])
    (hdot : (Text.splitOn '/' p.text).getLast? ≠ some ['.']) :
    ∃ front last : List Step, last ≠ [] ∧ Step.ofText p.text = front ++ last ∧
      Step.ofText (absolute (ofNames names) p).text =
        (if p.isAbsolute then [] else names).map .into ++
          (front.filter (· ≠ .stay) ++ last) := by
  have hlegs : ∀ n ∈ names, Text.IsLeg n := fun n hn => Text.isLeg_of_isName (hnames n hn)
  have hstart : (p.absoluteLegs names).map Step.ofLeg =
      (if p.isAbsolute then [] else names).map .into ++ p.legs.map Step.ofLeg := by
    unfold absoluteLegs
    split
    · rfl
    · rw [List.map_append, List.map_congr_left fun n hn => Step.ofLeg_of_isName (hnames n hn)]
  have hfilter : ∀ ts : List Text, (ts.filter (· ≠ ['.'])).map Step.ofLeg =
      (ts.map Step.ofLeg).filter (· ≠ .stay) := by
    intro ts
    rw [List.filter_map]
    refine congrArg _ (List.filter_congr fun t _ => ?_)
    simp [Step.ofLeg_eq_stay_iff]
  have htext := (spells_absolute hlegs hp).legs_text (isLeg_of_mem_absoluteLegs hlegs)
  by_cases hslash : p.text.getLast? = some '/'
  · refine ⟨p.text.legs.map Step.ofLeg, [.stay], List.cons_ne_nil _ _, ?_, ?_⟩
    · rw [Step.ofText_eq, if_pos hslash]
    · rw [Step.ofText_eq, htext, if_pos (getLast?_absolute_of_slash hlegs hslash), hstart, legs,
        hfilter, List.append_assoc]
  · obtain ⟨front, leg, hfront, hlast⟩ := Text.exists_legs_concat hp hslash
    have hleg : leg ≠ ['.'] := by
      rintro rfl
      exact hdot hlast
    have hcounts : p.legs = front.filter (· ≠ ['.']) ++ [leg] := by
      rw [legs, hfront, List.filter_append, List.filter_cons_of_pos (by simpa using hleg)]
      rfl
    have hend := getLast?_absolute_of_not_slash hlegs hslash (by simp [hcounts])
    refine ⟨front.map Step.ofLeg, [Step.ofLeg leg], List.cons_ne_nil _ _, ?_, ?_⟩
    · rw [Step.ofText_eq, if_neg hslash, hfront, List.map_append, List.append_nil]
      rfl
    · rw [Step.ofText_eq, htext, if_neg hend, hstart, hcounts, List.map_append, hfilter,
        List.append_nil]
      rfl

end Path

end ScriptScan
