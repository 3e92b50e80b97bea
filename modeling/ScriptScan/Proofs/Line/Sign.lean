import ScriptScan.Proofs.Line.BlockForm
import ScriptScan.Proofs.Line.Rule
import ScriptScan.Proofs.Text.LetterCase

/-!
# No line has two rules

Every line rule has a sign: the directive that a line begins with or, where the rule is not for a
directive, the character that a line ends with. A line that a rule reads shows the sign of that rule
(`LineRule.shownBy_of_read?`), and no line shows the signs of two rules (`LineRule.apart_of_ne`,
`LineSign.Apart.not_shownBy`). So one rule at most reads a line (`LineRule.eq_of_matches`).

What a line says by some rules is then told by which rules these are (`classifyBy_eq_some_iff`), and
the order in which they are tried makes no difference (`classifyBy_of_perm`).

The two directives that register hooks differ first in a letter s, which may also be written as the
long s. So signs are compared after `foldCase`, which brings the forms of a letter to one.
-/

namespace ScriptScan

/-! ## One form for each letter -/

/-- The form that stands for a character in every letter case. -/
def foldCase (c : Char) : Char :=
  if c = '\u017f' then 's' else if c = '\u212a' then 'k' else c.toLower

theorem foldCase_eq_of_foldsTo {k c : Char} (hk : foldCase k = k) (h : foldsTo k c = true) :
    foldCase c = k := by
  simp only [foldsTo, Bool.or_eq_true, Bool.and_eq_true, beq_iff_eq] at h
  rcases h with (rfl | ⟨rfl, rfl⟩) | ⟨rfl, rfl⟩
  · -- the long s and the Kelvin sign are not the form that stands for others
    have hlong : c ≠ '\u017f' := by
      rintro rfl
      exact absurd hk (by decide)
    have hkelvin : c ≠ '\u212a' := by
      rintro rfl
      exact absurd hk (by decide)
    rw [foldCase, if_neg hlong, if_neg hkelvin]
  · rfl
  · rfl

/-- Only letters have more than one form. -/
theorem eq_of_foldsTo {k c : Char} (hk : startsName k = false) (h : foldsTo k c = true) :
    c = k := by
  simp only [foldsTo, Bool.or_eq_true, Bool.and_eq_true, beq_iff_eq] at h
  rcases h with (rfl | ⟨rfl, -⟩) | ⟨rfl, -⟩
  · rw [startsName_toLower] at hk
    have hupper : ¬c.isUpper = true := by
      intro hupper
      rw [Text.startsName_of_isUpper hupper] at hk
      cases hk
    exact (Text.toLower_of_not_isUpper hupper).symm
  · cases hk
  · cases hk

theorem Text.map_foldCase_of_dropKeyword? {t keyword rest : Text}
    (hkeyword : keyword.map foldCase = keyword) (h : t.dropKeyword? keyword = some rest) :
    t.map foldCase = keyword ++ rest.map foldCase := by
  fun_induction dropKeyword? t keyword with
  | case1 t =>
    cases h
    rfl
  | case2 => cases h
  | case3 c t k ks hfold ih =>
    obtain ⟨hk, hks⟩ := List.cons.inj hkeyword
    rw [List.map_cons, foldCase_eq_of_foldsTo hk hfold, ih hks h, List.cons_append]
  | case4 => cases h

/-! ## Signs -/

/-- What a line is known by. -/
inductive LineSign where
  /-- It begins with a number sign and this word, in whatever letter case. -/
  | directive (word : Text)
  /-- It does not begin with a number sign, and ends with this character, in whatever letter
  case. -/
  | ending (c : Char)

namespace LineSign

variable {line : Text} {s s' : LineSign}

/-- Whether a line shows a sign. -/
def ShownBy (line : Text) : LineSign → Prop
  | directive word => ∃ t, line = '#' :: t ∧ word <+: t.map foldCase
  | ending c => line.head? ≠ some '#' ∧ (line.map foldCase).getLast? = some c

/-- Whether two signs exclude each other. -/
def Apart : LineSign → LineSign → Prop
  | directive w, directive w' => ¬w <+: w' ∧ ¬w' <+: w
  | ending c, ending c' => c ≠ c'
  | directive _, ending _ => True
  | ending _, directive _ => True

instance : DecidableRel Apart
  | directive w, directive w' => inferInstanceAs (Decidable (¬w <+: w' ∧ ¬w' <+: w))
  | ending c, ending c' => inferInstanceAs (Decidable (c ≠ c'))
  | directive _, ending _ => isTrue trivial
  | ending _, directive _ => isTrue trivial

/-- No line shows two signs that are apart. -/
theorem Apart.not_shownBy (h : s.Apart s') (hs : s.ShownBy line) : ¬s'.ShownBy line := by
  intro hs'
  cases s with
  | directive w =>
    obtain ⟨t, rfl, hw⟩ := hs
    cases s' with
    | directive w' =>
      -- of two words that one text begins with, one begins with the other
      obtain ⟨t', heq, hw'⟩ := hs'
      obtain rfl := (List.cons.inj heq).2
      rcases List.prefix_or_prefix_of_prefix hw hw' with hprefix | hprefix
      · exact h.1 hprefix
      · exact h.2 hprefix
    | ending c' => exact hs'.1 rfl
  | ending c =>
    cases s' with
    | directive w' =>
      obtain ⟨t, rfl, -⟩ := hs'
      exact hs.1 rfl
    | ending c' => exact h (Option.some.inj (hs.2.symm.trans hs'.2))

theorem shownBy_directive {word rest : Text} (hword : word.map foldCase = word)
    (h : line.dropKeyword? ('#' :: word) = some rest) : (directive word).ShownBy line := by
  obtain ⟨c, t, rfl, hc, ht⟩ := Text.dropKeyword?_cons_eq_some h
  obtain rfl := eq_of_foldsTo (by decide) hc
  exact ⟨t, rfl, rest.map foldCase, (Text.map_foldCase_of_dropKeyword? hword ht).symm⟩

end LineSign

/-! ## The signs of the rules -/

namespace LineRule

variable {line : Text} {form : LineForm} {r r' : LineRule}

/-- What a line is known by if the rule reads it. -/
def sign : LineRule → LineSign
  | includeOnce => .directive "include-once".toList
  | startupHook => .directive "onautoitstartregister".toList
  | exitHook => .directive "onautoitexitregister".toList
  | pragma => .directive "pragma".toList
  | func => .ending ')'
  | endFunc => .ending 'c'
  | label => .ending ':'

theorem mem_all (r : LineRule) : r ∈ all := by
  cases r <;> decide

/-- Two rules have signs that exclude each other. -/
theorem apart_of_ne (h : r ≠ r') : r.sign.Apart r'.sign := by
  have hall : ∀ r ∈ all, ∀ r' ∈ all, r ≠ r' → r.sign.Apart r'.sign := by decide
  exact hall r (mem_all r) r' (mem_all r') h

/-- A rule that reads no line with a number sign in front reads only lines without one. -/
theorem head?_ne_of_read? (hsharp : ∀ t, r.read? ('#' :: t) = none)
    (h : r.read? line = some form) : line.head? ≠ some '#' := by
  intro hhead
  obtain ⟨t, rfl⟩ := List.head?_eq_some_iff.1 hhead
  rw [hsharp t] at h
  cases h

theorem shownBy_of_readHook? {word func : Text} (hword : word.map foldCase = word)
    (h : LineForm.readHook? ('#' :: word) line = some func) :
    (LineSign.directive word).ShownBy line := by
  obtain ⟨rest, hdrop, -⟩ := Option.bind_eq_some_iff.1 h
  exact LineSign.shownBy_directive hword hdrop

/-- A line that a rule reads shows its sign. -/
theorem shownBy_of_read? (h : r.read? line = some form) : r.sign.ShownBy line := by
  cases r with
  | includeOnce =>
    obtain ⟨rest, hrest, -⟩ := Option.map_eq_some_iff.1 h
    exact LineSign.shownBy_directive (by decide) (Text.dropWholeWord?_eq_some_iff.1 hrest).1
  | startupHook =>
    obtain ⟨func, hfunc, -⟩ := Option.map_eq_some_iff.1 h
    exact shownBy_of_readHook? (by decide) hfunc
  | exitHook =>
    obtain ⟨func, hfunc, -⟩ := Option.map_eq_some_iff.1 h
    exact shownBy_of_readHook? (by decide) hfunc
  | pragma =>
    obtain ⟨d, hd, -⟩ := Option.map_eq_some_iff.1 h
    obtain ⟨rest, hdrop, -⟩ := Option.bind_eq_some_iff.1 hd
    exact LineSign.shownBy_directive (by decide) hdrop
  | func =>
    refine ⟨head?_ne_of_read? (fun _ => rfl) h, ?_⟩
    rw [List.getLast?_map, LineForm.getLast?_of_readFuncHeader? h]
    rfl
  | endFunc =>
    refine ⟨head?_ne_of_read? (fun _ => rfl) h, ?_⟩
    simp only [read?, LineForm.readEndFunc?] at h
    split at h
    · rename_i hword
      rw [Text.map_foldCase_of_dropKeyword? (by decide) hword]
      rfl
    · cases h
  | label =>
    refine ⟨head?_ne_of_read? (fun _ => rfl) h, ?_⟩
    simp only [read?, LineForm.readLabel?] at h
    split at h
    · rename_i name rest hname
      split at h
      · rename_i hcolon
        have hlast : [':'] <:+ line := by
          rw [(Text.takeName?_eq_some hname).2, ← hcolon]
          exact (List.dropWhile_suffix isBlank).trans (List.suffix_append name rest)
        rw [List.getLast?_map, Text.getLast?_of_suffix hlast (List.cons_ne_nil _ _)]
        rfl
      · cases h
    · cases h

/-- Whether a rule reads a line. -/
def Matches (r : LineRule) (line : Text) : Prop :=
  (r.read? line).isSome = true

instance (r : LineRule) (line : Text) : Decidable (r.Matches line) :=
  inferInstanceAs (Decidable (_ = true))

theorem Matches.shownBy (h : r.Matches line) : r.sign.ShownBy line := by
  obtain ⟨form, hform⟩ := Option.isSome_iff_exists.1 h
  exact shownBy_of_read? hform

/-- Two rules that read one line are the same. -/
theorem eq_of_matches (h : r.Matches line) (h' : r'.Matches line) : r = r' := by
  by_contra hne
  exact (apart_of_ne hne).not_shownBy h.shownBy h'.shownBy

/-! ## Any order of the rules -/

variable {rules : List LineRule}

/-- What a line says by some rules is what it says by one of them. -/
theorem classifyBy_eq_some_iff :
    classifyBy rules line = some form ↔ ∃ r ∈ rules, r.read? line = some form := by
  constructor
  · exact List.exists_of_findSome?_eq_some
  · rintro ⟨r, hr, hread⟩
    have hsome : (classifyBy rules line).isSome = true :=
      List.findSome?_isSome_iff.2 ⟨r, hr, Option.isSome_of_mem hread⟩
    obtain ⟨form', hform'⟩ := Option.isSome_iff_exists.1 hsome
    -- the first rule that reads the line can be no other one
    obtain ⟨r', -, hread'⟩ := List.exists_of_findSome?_eq_some hform'
    obtain rfl := eq_of_matches (Option.isSome_of_mem hread) (Option.isSome_of_mem hread')
    rw [hform', ← hread', hread]

theorem classifyBy_of_perm (hp : rules.Perm all) (line : Text) :
    classifyBy rules line = classify line := by
  refine Option.ext fun form => ?_
  rw [classify, classifyBy_eq_some_iff, classifyBy_eq_some_iff]
  simp only [hp.mem_iff]

end LineRule

end ScriptScan
