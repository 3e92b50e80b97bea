import ScriptScan.Line.Header
import ScriptScan.Proofs.Text.Name
import ScriptScan.Proofs.Text.Trim

/-!
# Readers and the text behind what they read

A reader takes something off the front of a text. What stands further behind does not matter to it:
with more text at the end it reads the same and leaves the more text, as long as it did not come to
the end. And what it leaves is the end of the text that it was given.
-/

namespace ScriptScan

namespace Text

variable {t u w rest keyword : Text}

/-! ## Keywords -/

/-- Whether a text is a keyword, given in lower case, in some letter case. -/
def Spells (w keyword : Text) : Prop :=
  w.dropKeyword? keyword = some []

instance (w keyword : Text) : Decidable (w.Spells keyword) :=
  inferInstanceAs (Decidable (_ = _))

theorem dropKeyword?_nil (t : Text) : t.dropKeyword? [] = some t := by
  cases t <;> rfl

theorem dropKeyword?_append (h : t.dropKeyword? keyword = some rest) (u : Text) :
    (t ++ u).dropKeyword? keyword = some (rest ++ u) := by
  fun_induction dropKeyword? t keyword with
  | case1 t =>
    cases h
    exact dropKeyword?_nil _
  | case2 => cases h
  | case3 c t k ks hfold ih => simp [dropKeyword?, hfold, ih h]
  | case4 => cases h

theorem dropKeyword?_cons_eq_some {k : Char} {ks : Text}
    (h : t.dropKeyword? (k :: ks) = some rest) :
    ∃ c t', t = c :: t' ∧ foldsTo k c = true ∧ dropKeyword? t' ks = some rest := by
  cases t with
  | nil => cases h
  | cons c t =>
    by_cases hc : foldsTo k c = true
    · simp only [dropKeyword?, hc, if_true] at h
      exact ⟨c, t, rfl, hc, h⟩
    · simp [dropKeyword?, hc] at h

theorem dropKeyword?_of_not_foldsTo {k c : Char} {ks : Text} (h : foldsTo k c = false) :
    dropKeyword? (c :: t) (k :: ks) = none := by
  simp [dropKeyword?, h]

/-- Before the rest stands the keyword. -/
theorem exists_spells_of_dropKeyword? (h : t.dropKeyword? keyword = some rest) :
    ∃ w, w.Spells keyword ∧ t = w ++ rest := by
  fun_induction dropKeyword? t keyword with
  | case1 t =>
    cases h
    exact ⟨[], rfl, rfl⟩
  | case2 => cases h
  | case3 c t k ks hfold ih =>
    obtain ⟨w, hw, rfl⟩ := ih h
    refine ⟨c :: w, ?_, rfl⟩
    simpa [Spells, dropKeyword?, hfold] using hw
  | case4 => cases h

theorem Spells.dropKeyword?_append (h : w.Spells keyword) (rest : Text) :
    (w ++ rest).dropKeyword? keyword = some rest :=
  Text.dropKeyword?_append h rest

theorem Spells.length_eq (h : w.Spells keyword) : w.length = keyword.length := by
  have hlength := length_of_dropKeyword? h
  simpa using hlength.symm

theorem Spells.ne_nil {k : Char} {ks : Text} (h : w.Spells (k :: ks)) : w ≠ [] := by
  obtain ⟨c, t, rfl, -⟩ := dropKeyword?_cons_eq_some h
  exact List.cons_ne_nil c t

/-- A character that none of the letters of a keyword stands for is not in the keyword. -/
theorem Spells.not_mem (h : w.Spells keyword) {c : Char}
    (hc : keyword.any (foldsTo · c) = false) : c ∉ w := by
  unfold Spells at h
  fun_induction dropKeyword? w keyword with
  | case1 t =>
    cases h
    exact List.not_mem_nil
  | case2 => cases h
  | case3 d t k ks hfold ih =>
    rw [List.any_cons, Bool.or_eq_false_iff] at hc
    rw [List.mem_cons, not_or]
    refine ⟨?_, ih h hc.2⟩
    rintro rfl
    rw [hc.1] at hfold
    cases hfold
  | case4 => cases h

/-- Only the long s and the Kelvin sign stand for a letter without having it as their lower case. -/
theorem foldsTo_iff {k c : Char} (hk : k ≠ 's' ∧ k ≠ 'k') :
    foldsTo k c = true ↔ c.toLower = k := by
  simp [foldsTo, hk.1, hk.2]

theorem foldsTo_of_ne {k k' c : Char} (hk : k ≠ 's' ∧ k ≠ 'k') (hk' : k' ≠ 's' ∧ k' ≠ 'k')
    (hne : k ≠ k') (h : foldsTo k c = true) : foldsTo k' c = false := by
  rw [Bool.eq_false_iff]
  intro h'
  exact hne (((foldsTo_iff hk).1 h).symm.trans ((foldsTo_iff hk').1 h'))

theorem toLower_of_not_isUpper {c : Char} (h : ¬c.isUpper = true) : c.toLower = c := by
  unfold Char.toLower
  split
  · rename_i hrange
    exact absurd (decide_eq_true hrange) h
  · rfl

theorem startsName_of_isUpper {c : Char} (h : c.isUpper = true) : startsName c = true := by
  have halpha : c.isAlpha = (c.isUpper || c.isLower) := rfl
  simp [startsName, halpha, h]

theorem startsName_of_foldsTo {k c : Char} (hk : startsName k = true) (h : foldsTo k c = true) :
    startsName c = true := by
  have hspecial : startsName '\u017f' = true ∧ startsName '\u212a' = true := by decide
  simp only [foldsTo, Bool.or_eq_true, Bool.and_eq_true, beq_iff_eq] at h
  rcases h with (hlower | ⟨-, rfl⟩) | ⟨-, rfl⟩
  · -- a capital letter, or the letter itself
    by_cases hupper : c.isUpper = true
    · exact startsName_of_isUpper hupper
    · rw [toLower_of_not_isUpper hupper] at hlower
      rw [hlower]
      exact hk
  · exact hspecial.1
  · exact hspecial.2

/-- A keyword without the two letters that have a second lower case is spelled by case alone. -/
theorem Spells.map_toLower (h : w.Spells keyword) (hs : 's' ∉ keyword) (hk : 'k' ∉ keyword) :
    w.map Char.toLower = keyword := by
  unfold Spells at h
  fun_induction dropKeyword? w keyword with
  | case1 t =>
    cases h
    rfl
  | case2 => cases h
  | case3 c t k ks hfold ih =>
    rw [List.mem_cons, not_or] at hs hk
    have hplain : k ≠ 's' ∧ k ≠ 'k' := ⟨Ne.symm hs.1, Ne.symm hk.1⟩
    rw [List.map_cons, (foldsTo_iff hplain).1 hfold, ih h hs.2 hk.2]
  | case4 => cases h

/-- A keyword of letters is spelled with letters. -/
theorem Spells.forall_startsName (h : w.Spells keyword) (hkeyword : keyword.all startsName = true) :
    ∀ c ∈ w, startsName c = true := by
  intro c hc
  by_contra hstarts
  -- any other character stands for no letter of the keyword
  refine h.not_mem ?_ hc
  rw [List.any_eq_false]
  intro k hk hfold
  exact hstarts (startsName_of_foldsTo (List.all_eq_true.1 hkeyword k hk) hfold)

/-- A keyword of letters has no white space in it. -/
theorem Spells.not_blank (h : w.Spells keyword) (hkeyword : keyword.all startsName = true) :
    ∀ c ∈ w, isBlank c = false := by
  intro c hc
  exact isBlank_of_startsName (h.forall_startsName hkeyword c hc)

/-- A keyword of letters is made of word characters. -/
theorem Spells.forall_isWord (h : w.Spells keyword) (hkeyword : keyword.all startsName = true) :
    ∀ c ∈ w, isWord c = true := by
  intro c hc
  exact isWord_of_startsName (h.forall_startsName hkeyword c hc)

/-! ## Whole words -/

theorem endsWord_space (t : Text) : endsWord (' ' :: t) = true := by
  show (!isWord ' ') = true
  decide

theorem endsWord_of_append (h : endsWord (t ++ u) = true) : endsWord t = true := by
  cases t with
  | nil => rfl
  | cons c t => exact h

theorem endsWord_append_blank {gap : Text} (hgap : gap.isBlankText = true)
    (h : endsWord t = true) : endsWord (gap ++ t) = true := by
  cases gap with
  | nil => exact h
  | cons c gap =>
    have hc : isBlank c = true := List.all_eq_true.1 hgap c List.mem_cons_self
    show (!isWord c) = true
    rw [Bool.not_eq_true']
    by_contra hword
    rw [Bool.not_eq_false] at hword
    rw [isBlank_of_isWord hword] at hc
    cases hc

theorem dropWholeWord?_eq_some_iff :
    t.dropWholeWord? keyword = some rest ↔
      t.dropKeyword? keyword = some rest ∧ endsWord rest = true := by
  unfold dropWholeWord?
  cases t.dropKeyword? keyword with
  | none => simp
  | some r =>
    by_cases hr : endsWord r = true
    · simp only [hr, if_true, Option.some.injEq]
      constructor
      · rintro rfl
        exact ⟨rfl, hr⟩
      · exact fun h => h.1
    · simp only [hr, Bool.false_eq_true, if_false, Option.some.injEq, reduceCtorEq, false_iff]
      rintro ⟨rfl, hr'⟩
      exact hr hr'

/-! ## White space and names -/

theorem trimStart_append (h : t.trimStart ≠ []) (u : Text) :
    trimStart (t ++ u) = t.trimStart ++ u := by
  have hne : (t.dropWhile isBlank).isEmpty = false := by simpa [trimStart] using h
  rw [trimStart, List.dropWhile_append, hne]
  rfl

theorem dropBlanks?_append (h : t.dropBlanks? = some rest) (hne : rest ≠ []) (u : Text) :
    (t ++ u).dropBlanks? = some (rest ++ u) := by
  cases t with
  | nil => cases h
  | cons c t =>
    by_cases hc : isBlank c = true
    · simp only [dropBlanks?, hc, if_true, Option.some.injEq] at h
      subst h
      simp [dropBlanks?, hc, trimStart_append hne]
    · simp [dropBlanks?, hc] at h

theorem dropBlanks?_eq_some (h : t.dropBlanks? = some rest) : rest = t.trimStart := by
  cases t with
  | nil => cases h
  | cons c t =>
    by_cases hc : isBlank c = true
    · simp only [dropBlanks?, hc, if_true, Option.some.injEq] at h
      rw [← h, trimStart, trimStart, List.dropWhile_cons_of_pos hc]
    · simp [dropBlanks?, hc] at h

/-- What is dropped is white space, and all of it. -/
theorem dropBlanks?_eq_some_iff :
    t.dropBlanks? = some rest ↔
      ∃ gap, gap ≠ [] ∧ isBlankText gap = true ∧ t = gap ++ rest ∧ rest.trimStart = rest := by
  constructor
  · intro h
    obtain rfl := dropBlanks?_eq_some h
    obtain ⟨gap, hgap, heq⟩ := exists_trimStart t
    refine ⟨gap, ?_, hgap, heq, trimStart_trimStart t⟩
    rintro rfl
    -- what is left is shorter than the text
    have hshort := length_of_dropBlanks? h
    rw [List.nil_append] at heq
    rw [← heq] at hshort
    exact Nat.lt_irrefl _ hshort
  · rintro ⟨gap, hne, hgap, rfl, hrest⟩
    cases gap with
    | nil => exact absurd rfl hne
    | cons c gap =>
      obtain ⟨hc, hgap⟩ : isBlank c = true ∧ isBlankText gap = true := by
        simpa [isBlankText] using hgap
      simp [dropBlanks?, hc, trimStart_append_blank hgap, hrest]

theorem dropBlanks?_suffix (h : t.dropBlanks? = some rest) : rest <:+ t := by
  rw [dropBlanks?_eq_some h]
  exact List.dropWhile_suffix isBlank

theorem takeName?_append {name : Text} (h : t.takeName? = some (name, rest)) (hne : rest ≠ [])
    (u : Text) : (t ++ u).takeName? = some (name, rest ++ u) := by
  cases t with
  | nil => cases h
  | cons c t =>
    by_cases hc : startsName c = true
    · simp only [takeName?, hc, if_true, Option.some.injEq, Prod.mk.injEq] at h
      obtain ⟨rfl, rfl⟩ := h
      -- the name ends before the end of the text
      have hdrop : (t.dropWhile isWord).isEmpty = false := by simpa using hne
      have htake : (t.takeWhile isWord).length ≠ t.length := by
        intro heq
        have hall := congrArg List.length (List.takeWhile_append_dropWhile (p := isWord) (l := t))
        rw [List.length_append, heq] at hall
        have hlength : (t.dropWhile isWord).length = 0 := by omega
        exact hne (List.length_eq_zero_iff.1 hlength)
      simp [takeName?, hc, List.takeWhile_append, htake, List.dropWhile_append, hdrop]
    · simp [takeName?, hc] at h

theorem dropChar?_eq_some_iff {x : Char} : t.dropChar? x = some rest ↔ t = x :: rest := by
  cases t with
  | nil => simp [dropChar?]
  | cons c t =>
    by_cases hc : c = x
    · simp [dropChar?, hc]
    · simp [dropChar?, hc]

end Text

end ScriptScan
