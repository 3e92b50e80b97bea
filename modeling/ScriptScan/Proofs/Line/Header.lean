import ScriptScan.Line.Rule
import ScriptScan.Proofs.Line.Expand
import ScriptScan.Proofs.Text.Keyword
import ScriptScan.Proofs.Text.Trim

/-!
# Where one-line forms are cut

A one-line if is cut behind the first whole word then outside literals, and a one-line function at
the first closing parenthesis that has an arrow behind it. Both readers go through the line from the
left; so what they do is said by what the part before the cut does not have: such a word
(`Text.HasWordOutside`), or such an arrow (`Text.HasArrow`).

* `IfHead` and `FuncLine` are the lines that may govern a statement.
* `IfHead.expand_oneLine`, `FuncLine.expand_oneLine` — the block form of a statement behind them.
* `IfHead.expand_header`, `FuncLine.expand_self` — alone they stay as they are.
-/

namespace ScriptScan

namespace Text

variable {t u v w rest word before keyword : Text}

/-! ## Places in a text -/

/-- Whether a text can be cut into two parts of which something holds. -/
def CutsInto (P : Text → Text → Prop) (t : Text) : Prop :=
  ∃ u v, t = u ++ v ∧ P u v

instance (P : Text → Text → Prop) [∀ u v, Decidable (P u v)] (t : Text) :
    Decidable (t.CutsInto P) :=
  decidable_of_iff (∃ n, n < t.length + 1 ∧ P (t.take n) (t.drop n)) <| by
    constructor
    · rintro ⟨n, -, h⟩
      exact ⟨_, _, (List.take_append_drop n t).symm, h⟩
    · rintro ⟨u, v, rfl, h⟩
      refine ⟨u.length, ?_, ?_⟩
      · rw [List.length_append]
        omega
      · simpa using h

/-- Whether a keyword stands behind one text and at the beginning of another, outside of string
literals and not as a part of a longer word. -/
def WordBetween (keyword u v : Text) : Prop :=
  u.endsInWord = false ∧ u.endsOutsideLiteral = true ∧ (v.dropWholeWord? keyword).isSome = true

/-- Whether a closing parenthesis ends one text, and an arrow begins another, perhaps with white
space before it. -/
def ArrowBetween (u v : Text) : Prop :=
  u.getLast? = some ')' ∧ ['-', '>'].isPrefixOf v.trimStart = true

/-- Whether a keyword stands somewhere outside of string literals as a whole word. -/
def HasWordOutside (t keyword : Text) : Prop :=
  t.CutsInto (WordBetween keyword)

/-- Whether an arrow stands somewhere behind a closing parenthesis. -/
def HasArrow (t : Text) : Prop :=
  t.CutsInto ArrowBetween

instance (keyword u v : Text) : Decidable (WordBetween keyword u v) :=
  inferInstanceAs (Decidable (_ ∧ _ ∧ _))

instance (u v : Text) : Decidable (ArrowBetween u v) :=
  inferInstanceAs (Decidable (_ ∧ _))

instance (t keyword : Text) : Decidable (t.HasWordOutside keyword) :=
  inferInstanceAs (Decidable (t.CutsInto (WordBetween keyword)))

instance (t : Text) : Decidable t.HasArrow :=
  inferInstanceAs (Decidable (t.CutsInto ArrowBetween))

theorem endsInWord_append (hne : v ≠ []) (hv : ∀ c ∈ v, isWord c = true) (u : Text) :
    (u ++ v).endsInWord = true := by
  rw [endsInWord, List.getLast?_append_of_ne_nil u hne, List.getLast?_eq_some_getLast hne]
  exact hv _ (List.getLast_mem hne)

/-! ## The word then -/

theorem readThen?_eq_some_iff :
    t.readThen? = some (word, rest) ↔
      word.Spells "then".toList ∧ t = word ++ rest ∧ endsWord rest = true := by
  simp only [readThen?, Option.map_eq_some_iff, dropWholeWord?_eq_some_iff, Prod.mk.injEq]
  constructor
  · rintro ⟨r, ⟨hdrop, hends⟩, hword, rfl⟩
    obtain ⟨w, hw, rfl⟩ := exists_spells_of_dropKeyword? hdrop
    have hlength : w.length = 4 := hw.length_eq
    have heq : word = w := by rw [← hword, ← hlength, List.take_left]
    rw [heq]
    exact ⟨hw, rfl, hends⟩
  · rintro ⟨hw, rfl, hends⟩
    have hlength : word.length = 4 := hw.length_eq
    refine ⟨rest, ⟨hw.dropKeyword?_append rest, hends⟩, ?_, rfl⟩
    rw [← hlength, List.take_left]

/-- A line is cut behind a word then that stands by itself, outside literals and before text. -/
theorem splitAtThen?_of_cut (hword : before.endsInWord = false)
    (hread : t.readThen? = some (word, rest)) (hrest : rest.isBlankText = false)
    (houtside : before.endsOutsideLiteral = true) :
    splitAtThen? before t = some (trim (before ++ word), trim rest) := by
  cases t with
  | nil => cases hread
  | cons c t => simp [splitAtThen?, hword, hread, hrest, houtside]

/-- At any other place the reader goes on. -/
theorem splitAtThen?_of_pass {c : Char}
    (h : ∀ word rest, readThen? (c :: t) = some (word, rest) → before.endsInWord = false →
      before.endsOutsideLiteral = true → rest.isBlankText = true) :
    splitAtThen? before (c :: t) = splitAtThen? (before ++ [c]) t := by
  by_cases hword : before.endsInWord = true
  · simp [splitAtThen?, hword]
  · rw [Bool.not_eq_true] at hword
    cases hread : readThen? (c :: t) with
    | none => simp [splitAtThen?, hword, hread]
    | some found =>
      obtain ⟨word, rest⟩ := found
      by_cases houtside : before.endsOutsideLiteral = true
      · have hrest := h word rest hread hword houtside
        simp [splitAtThen?, hword, hread, hrest]
      · simp [splitAtThen?, hword, hread, houtside]

/-- Where a word then stands by itself, it is read. -/
theorem readThen?_of_wordBetween (h : WordBetween "then".toList u v) :
    v.readThen? = some (v.take 4, v.drop 4) := by
  obtain ⟨rest, hrest⟩ := Option.isSome_iff_exists.1 h.2.2
  have hread : v.readThen? = some (v.take 4, rest) := by
    rw [readThen?, hrest]
    rfl
  obtain ⟨-, hv, -⟩ := readThen?_eq_some_iff.1 hread
  have hdrop : v.drop 4 = rest :=
    List.append_cancel_left ((List.take_append_drop 4 v).trans hv)
  rw [hread, hdrop]

/-- No line is cut behind its last word. -/
theorem splitAtThen?_of_length_le (h : t.length ≤ 4) : splitAtThen? before t = none := by
  induction t generalizing before with
  | nil => rfl
  | cons c t ih =>
    rw [splitAtThen?_of_pass]
    · rw [List.length_cons] at h
      exact ih (by omega)
    · intro word rest hread _ _
      obtain ⟨hspells, heq, -⟩ := readThen?_eq_some_iff.1 hread
      have hword : word.length = 4 := hspells.length_eq
      have hlength := congrArg List.length heq
      rw [List.length_append] at hlength
      have hrest : rest = [] := List.length_eq_zero_iff.1 (by omega)
      rw [hrest]
      rfl

/-- A line that is cut is cut behind a word then that stands by itself, outside literals and before
text. What stands before the cut is not cut again. -/
theorem splitAtThen?_eq_some {header stmt : Text}
    (h : splitAtThen? before t = some (header, stmt)) :
    ∃ u word rest, t = u ++ (word ++ rest) ∧ word.Spells "then".toList ∧
      WordBetween "then".toList (before ++ u) (word ++ rest) ∧ rest.isBlankText = false ∧
      header = trim (before ++ u ++ word) ∧ stmt = rest.trim ∧
      splitAtThen? before (u ++ word) = none := by
  induction t generalizing before with
  | nil => cases h
  | cons c t ih =>
    by_cases hcut : ∃ word rest, readThen? (c :: t) = some (word, rest) ∧
        before.endsInWord = false ∧ before.endsOutsideLiteral = true ∧ rest.isBlankText = false
    · obtain ⟨word, rest, hread, hword, houtside, hrest⟩ := hcut
      rw [splitAtThen?_of_cut hword hread hrest houtside] at h
      cases h
      obtain ⟨hspells, heq, hends⟩ := readThen?_eq_some_iff.1 hread
      have hwhole : dropWholeWord? (word ++ rest) "then".toList = some rest :=
        dropWholeWord?_eq_some_iff.2 ⟨hspells.dropKeyword?_append rest, hends⟩
      have huncut : splitAtThen? before ([] ++ word) = none :=
        splitAtThen?_of_length_le (Nat.le_of_eq hspells.length_eq)
      refine ⟨[], word, rest, heq, hspells, ?_, hrest, by simp, rfl, huncut⟩
      rw [List.append_nil]
      exact ⟨hword, houtside, by rw [hwhole]; rfl⟩
    · rw [splitAtThen?_of_pass] at h
      · obtain ⟨u, word, rest, ht, hspells, hbetween, hrest, hheader, hstmt, huncut⟩ := ih h
        refine ⟨c :: u, word, rest, by rw [ht]; rfl, hspells, by simpa using hbetween, hrest,
          by simpa using hheader, hstmt, ?_⟩
        rw [List.cons_append, splitAtThen?_of_pass]
        · exact huncut
        · intro word' rest' hread hword houtside
          by_contra hrest'
          -- what is read before the cut is read in the whole line too
          obtain ⟨hspells', heq, hends⟩ := readThen?_eq_some_iff.1 hread
          have hlong : c :: t = word' ++ (rest' ++ rest) := by
            rw [ht, ← List.append_assoc, ← List.append_assoc, ← heq]
            rfl
          have hends' : endsWord (rest' ++ rest) = true := by
            cases rest' with
            | nil => exact absurd rfl hrest'
            | cons d rest' => exact hends
          have hblank : isBlankText (rest' ++ rest) = false := by
            simp [isBlankText_append, hrest]
          exact hcut ⟨word', rest' ++ rest, readThen?_eq_some_iff.2 ⟨hspells', hlong, hends'⟩,
            hword, houtside, hblank⟩
      · intro word rest hread hword houtside
        by_contra hrest
        exact hcut ⟨word, rest, hread, hword, houtside, by simpa using hrest⟩

/-- A line in which there is such a word is cut, there or before. -/
theorem splitAtThen?_isSome (h : WordBetween "then".toList (before ++ u) v)
    (hrest : isBlankText (v.drop 4) = false) : (splitAtThen? before (u ++ v)).isSome = true := by
  induction u generalizing before with
  | nil =>
    rw [List.append_nil] at h
    rw [List.nil_append, splitAtThen?_of_cut h.1 (readThen?_of_wordBetween h) hrest h.2.1]
    rfl
  | cons c u ih =>
    rw [List.cons_append, splitAtThen?]
    split
    · rfl
    · exact ih (by simpa using h)

theorem splitAtThen?_eq_none_iff :
    splitAtThen? before t = none ↔
      ∀ u v, t = u ++ v → WordBetween "then".toList (before ++ u) v →
        isBlankText (v.drop 4) = true := by
  constructor
  · rintro h u v rfl hbetween
    by_contra hrest
    have hsome := splitAtThen?_isSome hbetween (by simpa using hrest)
    rw [h] at hsome
    cases hsome
  · intro h
    rw [← Option.not_isSome_iff_eq_none]
    intro hsome
    obtain ⟨⟨header, stmt⟩, hcut⟩ := Option.isSome_iff_exists.1 hsome
    obtain ⟨u, word, rest, ht, hspells, hbetween, hrest, -⟩ := splitAtThen?_eq_some hcut
    have hblank := h u (word ++ rest) ht hbetween
    have hlength : word.length = 4 := hspells.length_eq
    rw [← hlength, List.drop_left, hrest] at hblank
    cases hblank

theorem space_not_mem_then (h : w.Spells "then".toList) : ' ' ∉ w :=
  h.not_mem (by decide)

/-- The reader goes through a part that has no word then and ends with a space, whatever stands
behind it. -/
theorem splitAtThen?_append (h : ¬HasWordOutside (u ++ v) "then".toList)
    (hend : ∀ c, v.getLast? = some c → c = ' ') (rest : Text) :
    splitAtThen? u (v ++ rest) = splitAtThen? (u ++ v) rest := by
  induction v generalizing u with
  | nil => simp
  | cons c v ih =>
    have hpass : splitAtThen? u (c :: (v ++ rest)) = splitAtThen? (u ++ [c]) (v ++ rest) := by
      refine splitAtThen?_of_pass ?_
      intro word r hread hword houtside
      obtain ⟨hspells, heq, hends⟩ := readThen?_eq_some_iff.1 hread
      rw [← List.cons_append] at heq
      rcases List.append_eq_append_iff.1 heq with ⟨tail, hlong, -⟩ | ⟨tail, hinside, hr⟩
      · -- the word would go over the space at the end
        have hspace : (c :: v).getLast? = some ' ' := by
          rw [List.getLast?_eq_some_getLast (List.cons_ne_nil c v)]
          exact congrArg some (hend _ (List.getLast?_eq_some_getLast (List.cons_ne_nil c v)))
        have hmem : ' ' ∈ word := by
          rw [hlong]
          exact List.mem_append_left _ (List.mem_of_getLast? hspace)
        exact absurd hmem (space_not_mem_then hspells)
      · -- the word would stand in the part
        rw [hr] at hends
        have hread' : dropWholeWord? (c :: v) "then".toList = some tail := by
          rw [hinside]
          exact dropWholeWord?_eq_some_iff.2
            ⟨hspells.dropKeyword?_append tail, endsWord_of_append hends⟩
        refine absurd ⟨u, c :: v, rfl, hword, houtside, ?_⟩ h
        rw [hread']
        rfl
    have hend' : ∀ d, v.getLast? = some d → d = ' ' := by
      intro d hd
      refine hend d ?_
      rw [List.getLast?_cons, hd]
      rfl
    have hrest := ih (u := u ++ [c]) (by simpa using h) hend'
    rw [List.cons_append, hpass, hrest, List.append_assoc, List.singleton_append]

/-! ## Arrows -/

theorem readArrow?_eq_some (h : t.readArrow? = some rest) :
    ['-', '>'].isPrefixOf t.trimStart = true := by
  unfold readArrow? at h
  split at h
  · rename_i r hr
    rw [hr]
    rfl
  · cases h

/-- There is text behind an arrow. -/
theorem readArrow?_not_blank (h : t.readArrow? = some rest) : rest.isBlankText = false := by
  unfold readArrow? at h
  split at h
  · split at h
    · cases h
    · rename_i hblank
      cases h
      rw [isBlankText_trimStart, Bool.eq_false_iff]
      exact hblank
  · cases h

/-- The text behind an arrow is a part of what is read. -/
theorem readArrow?_sublist (h : t.readArrow? = some rest) : rest.Sublist t := by
  unfold readArrow? at h
  split at h
  · rename_i r hr
    split at h
    · cases h
    · cases h
      have hstart : ('-' :: '>' :: r).Sublist t := by
        rw [← hr]
        exact List.dropWhile_sublist isBlank
      have hbehind : r.Sublist ('-' :: '>' :: r) := List.sublist_append_right ['-', '>'] r
      exact ((List.dropWhile_sublist isBlank).trans hbehind).trans hstart
  · cases h

/-- Behind a closing parenthesis there is an arrow only if it begins before that parenthesis. -/
theorem readArrow?_append (h : ['-', '>'].isPrefixOf v.trimStart = false)
    (hend : v.getLast? = some ')') (rest : Text) : readArrow? (v ++ rest) = none := by
  have hne : v.trimStart ≠ [] := by
    intro hnil
    have hblank := List.dropWhile_eq_nil_iff.1 hnil ')' (List.mem_of_getLast? hend)
    exact absurd hblank (by decide)
  have hlast : v.getLast? = v.trimStart.getLast? :=
    getLast?_of_suffix (List.dropWhile_suffix isBlank) hne
  rw [hend] at hlast
  rw [← Option.not_isSome_iff_eq_none]
  intro hsome
  obtain ⟨body, hbody⟩ := Option.isSome_iff_exists.1 hsome
  have harrow := readArrow?_eq_some hbody
  rw [trimStart_append hne] at harrow
  generalize v.trimStart = s at hne h hlast harrow
  match s with
  | [] => exact hne rfl
  | [c] =>
    -- the parenthesis is no part of an arrow
    have hc : c = ')' := by simpa using hlast.symm
    rw [hc] at harrow
    simp at harrow
  | c :: d :: s =>
    have hsame : ['-', '>'].isPrefixOf (c :: d :: s ++ rest) =
        ['-', '>'].isPrefixOf (c :: d :: s) := by
      simp [List.isPrefixOf]
    rw [hsame, h] at harrow
    cases harrow

/-- An arrow with text behind it is one also with more text behind that. -/
theorem readArrow?_append_isSome (h : t.readArrow? = some rest) (u : Text) :
    (readArrow? (t ++ u)).isSome = true := by
  unfold readArrow? at h
  split at h
  · rename_i r hr
    split at h
    · cases h
    · rename_i hblank
      have hne : t.trimStart ≠ [] := by
        rw [hr]
        exact List.cons_ne_nil _ _
      have hblank' : isBlankText (r ++ u) = false := by
        simp [isBlankText_append, hblank]
      rw [readArrow?, trimStart_append hne, hr]
      simp [hblank']
  · cases h

/-- A line that is cut is cut behind a closing parenthesis, before an arrow with text behind it. What
stands before the cut is not cut again. -/
theorem splitAtArrow?_eq_some {decl body : Text}
    (h : splitAtArrow? before t = some (decl, body)) :
    ∃ u rest, t = u ++ ')' :: rest ∧ decl = before ++ u ++ [')'] ∧
      readArrow? rest = some body ∧ splitAtArrow? before (u ++ [')']) = none := by
  induction t generalizing before with
  | nil => cases h
  | cons c t ih =>
    rw [splitAtArrow?] at h
    split at h
    · rename_i body' hbody
      cases h
      by_cases hc : c = ')'
      · rw [if_pos hc] at hbody
        exact ⟨[], t, by rw [hc]; rfl, by simp [hc], hbody, rfl⟩
      · rw [if_neg hc] at hbody
        cases hbody
    · rename_i hhere
      obtain ⟨u, rest, ht, hdecl, hbody, huncut⟩ := ih h
      refine ⟨c :: u, rest, by rw [ht]; rfl, by simpa using hdecl, hbody, ?_⟩
      have hpass : (if c = ')' then readArrow? (u ++ [')']) else none) = none := by
        by_cases hc : c = ')'
        · rw [if_pos hc] at hhere ⊢
          by_contra harrow
          -- an arrow before the cut would be one in the whole line
          obtain ⟨b, hb⟩ := Option.ne_none_iff_exists'.1 harrow
          have hlong := readArrow?_append_isSome hb rest
          rw [List.append_assoc, List.singleton_append, ← ht, hhere] at hlong
          cases hlong
        · rw [if_neg hc]
      rw [List.cons_append, splitAtArrow?, hpass]
      exact huncut

/-- Without an arrow there is nothing to cut. -/
theorem splitAtArrow?_eq_none (h : ¬HasArrow (before ++ t)) : splitAtArrow? before t = none := by
  induction t generalizing before with
  | nil => rfl
  | cons c t ih =>
    have hhere : (if c = ')' then readArrow? t else none) = none := by
      by_cases hc : c = ')'
      · rw [if_pos hc, ← Option.not_isSome_iff_eq_none]
        intro hsome
        obtain ⟨body, hbody⟩ := Option.isSome_iff_exists.1 hsome
        refine h ⟨before ++ [c], t, by simp, ?_, readArrow?_eq_some hbody⟩
        rw [hc]
        simp
      · rw [if_neg hc]
    simp only [splitAtArrow?, hhere]
    exact ih (by simpa using h)

/-- A line is cut at the end of a part without arrows, if there is an arrow behind it. -/
theorem splitAtArrow?_append {body : Text} (h : ¬HasArrow (u ++ v)) (hend : v.getLast? = some ')')
    (hbody : rest.readArrow? = some body) :
    splitAtArrow? u (v ++ rest) = some (u ++ v, body) := by
  induction v generalizing u with
  | nil => cases hend
  | cons c v ih =>
    cases v with
    | nil =>
      have hc : c = ')' := by simpa using hend
      simp [splitAtArrow?, hc, hbody]
    | cons d v =>
      rw [List.getLast?_cons_cons] at hend
      have hhere : (if c = ')' then readArrow? (d :: v ++ rest) else none) = none := by
        by_cases hc : c = ')'
        · rw [if_pos hc]
          refine readArrow?_append ?_ hend rest
          rw [Bool.eq_false_iff]
          intro harrow
          refine h ⟨u ++ [c], d :: v, by simp, ?_, harrow⟩
          rw [hc]
          simp
        · rw [if_neg hc]
      have hrest := ih (u := u ++ [c]) (by simpa using h) hend
      rw [List.cons_append, splitAtArrow?, hhere]
      simpa using hrest

/-! ## The beginning of a function -/

theorem dropFuncName?_append (h : t.dropFuncName? = some rest) (u : Text) :
    (t ++ u).dropFuncName? = some (rest ++ u) := by
  simp only [dropFuncName?, bind, Option.bind_eq_some_iff] at h ⊢
  obtain ⟨a, hword, b, hblanks, ⟨name, c⟩, hname, hparen⟩ := h
  -- what is left after each reader holds the rest, so it is not empty
  have hparen' := dropChar?_eq_some_iff.1 hparen
  have hc : c.trimStart ≠ [] := by
    rw [hparen']
    exact List.cons_ne_nil _ _
  have hc' : c ≠ [] := by
    rintro rfl
    exact hc rfl
  have hb : b ≠ [] := by
    rintro rfl
    cases hname
  refine ⟨a ++ u, dropKeyword?_append hword u, b ++ u, dropBlanks?_append hblanks hb u,
    (name, c ++ u), takeName?_append hname hc' u, ?_⟩
  rw [trimStart_append hc, hparen']
  exact dropChar?_eq_some_iff.2 rfl

theorem dropFuncName?_suffix (h : t.dropFuncName? = some rest) : rest <:+ t := by
  simp only [dropFuncName?, bind, Option.bind_eq_some_iff] at h
  obtain ⟨a, hword, b, hblanks, ⟨name, c⟩, hname, hparen⟩ := h
  obtain ⟨w, -, rfl⟩ := exists_spells_of_dropKeyword? hword
  have hb := (takeName?_eq_some hname).2
  have hc : rest <:+ c.trimStart := by
    rw [dropChar?_eq_some_iff.1 hparen]
    exact List.suffix_cons _ _
  have hcb : c <:+ b := by
    rw [hb]
    exact List.suffix_append _ _
  exact (hc.trans (List.dropWhile_suffix isBlank)).trans
    ((hcb.trans (dropBlanks?_suffix hblanks)).trans (List.suffix_append _ _))

/-- A function begins with the letter f, unless it begins with the letter v. -/
theorem exists_cons_of_dropFuncName? (h : t.dropFuncName? = some rest) :
    ∃ c t', t = c :: t' ∧ foldsTo 'f' c = true := by
  simp only [dropFuncName?, bind, Option.bind_eq_some_iff] at h
  rcases h with ⟨a, hfunc, -⟩
  rcases dropKeyword?_cons_eq_some hfunc with ⟨c, t', ht, hc, -⟩
  exact ⟨c, t', ht, hc⟩

theorem dropVolatile?_eq_none (h : t.dropFuncName? = some rest) (u : Text) :
    (t ++ u).dropKeyword? "volatile".toList = none := by
  rcases exists_cons_of_dropFuncName? h with ⟨c, t', rfl, hc⟩
  exact dropKeyword?_of_not_foldsTo (foldsTo_of_ne (by decide) (by decide) (by decide) hc)

/-- A text that begins with neither word begins no function. -/
theorem dropFuncLead?_eq_none {c : Char} (hv : foldsTo 'v' c = false) (hf : foldsTo 'f' c = false) :
    dropFuncLead? (c :: t) = none := by
  have hvolatile : dropKeyword? (c :: t) "volatile".toList = none :=
    dropKeyword?_of_not_foldsTo hv
  have hfunc : dropKeyword? (c :: t) "func".toList = none := dropKeyword?_of_not_foldsTo hf
  simp only [dropFuncLead?, dropFuncName?, hvolatile, hfunc]
  rfl

theorem exists_cons_of_dropFuncLead? (h : t.dropFuncLead? = some rest) :
    ∃ c t', t = c :: t' ∧ (foldsTo 'v' c = true ∨ foldsTo 'f' c = true) := by
  cases t with
  | nil => cases h
  | cons c t =>
    refine ⟨c, t, rfl, ?_⟩
    by_contra hneither
    rw [not_or, Bool.not_eq_true, Bool.not_eq_true] at hneither
    rw [dropFuncLead?_eq_none hneither.1 hneither.2] at h
    cases h

/-- Where a function begins, no if begins. -/
theorem splitOneLineIf?_of_func (h : t.dropFuncLead? = some rest) (u : Text) :
    (t ++ u).splitOneLineIf? = none := by
  rcases exists_cons_of_dropFuncLead? h with ⟨c, t', rfl, hc⟩
  have hi : foldsTo 'i' c = false := by
    rcases hc with hv | hf
    · exact foldsTo_of_ne (by decide) (by decide) (by decide) hv
    · exact foldsTo_of_ne (by decide) (by decide) (by decide) hf
  have hif : dropKeyword? (c :: (t' ++ u)) "if".toList = none := dropKeyword?_of_not_foldsTo hi
  simp only [List.cons_append, splitOneLineIf?, dropWholeWord?, hif]

/-- Where an if begins, no function begins. -/
theorem splitOneLineFunc?_of_if {c : Char} (hc : foldsTo 'i' c = true) (t : Text) :
    splitOneLineFunc? (c :: t) = none := by
  have hv : foldsTo 'v' c = false := foldsTo_of_ne (by decide) (by decide) (by decide) hc
  have hf : foldsTo 'f' c = false := foldsTo_of_ne (by decide) (by decide) (by decide) hc
  rw [splitOneLineFunc?, dropFuncLead?_eq_none hv hf]

theorem dropFuncLead?_append (h : t.dropFuncLead? = some rest) (u : Text) :
    (t ++ u).dropFuncLead? = some (rest ++ u) := by
  unfold dropFuncLead? at h ⊢
  cases hvolatile : t.dropKeyword? "volatile".toList with
  | some a =>
    simp only [hvolatile, bind, Option.bind_eq_some_iff] at h
    obtain ⟨b, hblanks, hname⟩ := h
    have hb : b ≠ [] := by
      rintro rfl
      cases hname
    simp only [dropKeyword?_append hvolatile u, dropBlanks?_append hblanks hb u]
    exact dropFuncName?_append hname u
  | none =>
    simp only [hvolatile] at h
    -- the text begins with the word func, so with more behind it, it does not begin with volatile
    simp only [dropVolatile?_eq_none h u]
    exact dropFuncName?_append h u

theorem dropFuncLead?_suffix (h : t.dropFuncLead? = some rest) : rest <:+ t := by
  unfold dropFuncLead? at h
  cases hvolatile : t.dropKeyword? "volatile".toList with
  | some a =>
    simp only [hvolatile, bind, Option.bind_eq_some_iff] at h
    obtain ⟨b, hblanks, hname⟩ := h
    obtain ⟨w, -, rfl⟩ := exists_spells_of_dropKeyword? hvolatile
    have hb := (dropFuncName?_suffix hname).trans (dropBlanks?_suffix hblanks)
    exact hb.trans (List.suffix_append _ _)
  | none =>
    simp only [hvolatile] at h
    exact dropFuncName?_suffix h

/-- What stands before the parameters is read alone as well. -/
theorem exists_lead_of_dropFuncName? (h : t.dropFuncName? = some rest) :
    ∃ lead, t = lead ++ rest ∧ lead.dropFuncName? = some [] := by
  simp only [dropFuncName?, bind, Option.bind_eq_some_iff] at h
  rcases h with ⟨a, hword, b, hblanks, ⟨name, c⟩, hname, hparen⟩
  rcases exists_spells_of_dropKeyword? hword with ⟨w, hw, rfl⟩
  rcases dropBlanks?_eq_some_iff.1 hblanks with ⟨gap, hne, hgap, rfl, -⟩
  rcases takeName?_eq_some hname with ⟨hisName, rfl⟩
  rcases exists_trimStart c with ⟨gap', hgap', hc⟩
  rw [dropChar?_eq_some_iff.1 hparen] at hc
  have hfirst : trimStart (name ++ (gap' ++ ['('])) = name ++ (gap' ++ ['(']) := by
    rw [trimStart_eq_self_iff]
    intro d hd
    rcases hisName with ⟨x, r, rfl, hx, -⟩
    cases hd
    exact isBlank_of_startsName hx
  have hend : endsWord (gap' ++ ['(']) = true := endsWord_append_blank hgap' (by decide)
  have hparen' : trimStart (gap' ++ ['(']) = ['('] := by
    rw [trimStart_append_blank hgap']
    decide
  refine ⟨w ++ (gap ++ (name ++ (gap' ++ ['(']))), by simp [hc], ?_⟩
  simp only [dropFuncName?, bind, Option.bind_eq_some_iff]
  refine ⟨_, hw.dropKeyword?_append _, _, dropBlanks?_eq_some_iff.2 ⟨gap, hne, hgap, rfl, hfirst⟩,
    (name, _), takeName?_of_isName hisName hend, ?_⟩
  rw [hparen']
  rfl

theorem exists_lead_of_dropFuncLead? (h : t.dropFuncLead? = some rest) :
    ∃ lead, t = lead ++ rest ∧ lead.dropFuncLead? = some [] := by
  unfold dropFuncLead? at h
  cases hvolatile : t.dropKeyword? "volatile".toList with
  | some a =>
    simp only [hvolatile, bind, Option.bind_eq_some_iff] at h
    rcases h with ⟨b, hblanks, hname⟩
    rcases exists_spells_of_dropKeyword? hvolatile with ⟨w, hw, rfl⟩
    rcases dropBlanks?_eq_some_iff.1 hblanks with ⟨gap, hne, hgap, rfl, -⟩
    rcases exists_lead_of_dropFuncName? hname with ⟨lead, rfl, hlead⟩
    have hblanks' : dropBlanks? (gap ++ lead) = some lead := by
      refine dropBlanks?_eq_some_iff.2 ⟨gap, hne, hgap, rfl, ?_⟩
      rcases exists_cons_of_dropFuncName? hlead with ⟨c, t', rfl, hc⟩
      rw [trimStart_eq_self_iff]
      intro d hd
      cases hd
      exact isBlank_of_startsName (startsName_of_foldsTo (by decide) hc)
    refine ⟨w ++ (gap ++ lead), by simp, ?_⟩
    simp only [dropFuncLead?, hw.dropKeyword?_append, hblanks', bind, Option.bind_some, hlead]
  | none =>
    simp only [hvolatile] at h
    rcases exists_lead_of_dropFuncName? h with ⟨lead, rfl, hlead⟩
    refine ⟨lead, rfl, ?_⟩
    have hvolatile' : lead.dropKeyword? "volatile".toList = none := by
      simpa using dropVolatile?_eq_none hlead []
    simp only [dropFuncLead?, hvolatile', hlead]

end Text

end ScriptScan
