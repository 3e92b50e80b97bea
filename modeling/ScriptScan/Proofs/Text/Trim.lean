import Mathlib.Data.List.Basic
import Mathlib.Data.List.DropRight
import Mathlib.Data.List.TakeWhile
import ScriptScan.Line.Expand
import ScriptScan.Text.Comment

/-!
# Texts without white space at their ends

A text is left as it is by trimming exactly if its first and its last character are no white space.
So whether a text that is put together is trimmed can be read off its parts. A line without a
semicolon has no comment, and only the white space at its end is cut off.
-/

namespace ScriptScan

namespace Text

variable {t u gap : Text}

/-! ## One end -/

theorem trimStart_eq_self_iff : t.trimStart = t ↔ ∀ c, t.head? = some c → isBlank c = false := by
  cases t with
  | nil => simp [trimStart]
  | cons c t =>
    simp only [trimStart, List.head?_cons, Option.some.injEq, forall_eq']
    by_cases hc : isBlank c = true
    · -- what is left is shorter than the text
      have hshort := (List.dropWhile_suffix isBlank (l := t)).length_le
      rw [List.dropWhile_cons_of_pos hc]
      constructor
      · intro heq
        rw [heq, List.length_cons] at hshort
        omega
      · intro hfalse
        rw [hc] at hfalse
        cases hfalse
    · simp [hc]

theorem getLast?_of_suffix (h : u <:+ t) (hne : u ≠ []) : t.getLast? = u.getLast? := by
  obtain ⟨before, rfl⟩ := h
  exact List.getLast?_append_of_ne_nil before hne

theorem trimEnd_eq_self_iff : t.trimEnd = t ↔ ∀ c, t.getLast? = some c → isBlank c = false := by
  have hstart := trimStart_eq_self_iff (t := t.reverse)
  rw [List.head?_reverse] at hstart
  rw [← hstart, trimEnd, trimStart, List.reverse_eq_iff]

theorem trimStart_trimStart (t : Text) : t.trimStart.trimStart = t.trimStart :=
  List.dropWhile_idempotent ..

theorem trimEnd_trimEnd (t : Text) : t.trimEnd.trimEnd = t.trimEnd := by
  simp only [trimEnd, List.reverse_reverse]
  rw [List.dropWhile_idempotent]

theorem trimStart_append_blank (h : gap.isBlankText = true) (t : Text) :
    trimStart (gap ++ t) = t.trimStart :=
  List.dropWhile_append_of_pos (List.all_eq_true.1 h)

theorem trimEnd_append_blank (h : gap.isBlankText = true) (t : Text) :
    trimEnd (t ++ gap) = t.trimEnd := by
  have hreverse : ∀ c ∈ gap.reverse, isBlank c = true := by
    intro c hc
    exact List.all_eq_true.1 h c (List.mem_reverse.1 hc)
  rw [trimEnd, List.reverse_append, List.dropWhile_append_of_pos hreverse, trimEnd]

theorem isBlankText_append (t u : Text) :
    isBlankText (t ++ u) = (t.isBlankText && u.isBlankText) :=
  List.all_append

/-- Only white space is cut off. -/
theorem exists_trimStart (t : Text) : ∃ gap, isBlankText gap = true ∧ t = gap ++ t.trimStart :=
  ⟨t.takeWhile isBlank, List.all_takeWhile, (List.takeWhile_append_dropWhile ..).symm⟩

theorem exists_trimEnd (t : Text) : ∃ gap, isBlankText gap = true ∧ t = t.trimEnd ++ gap := by
  obtain ⟨gap, hgap, heq⟩ := exists_trimStart t.reverse
  refine ⟨gap.reverse, by simpa [isBlankText] using hgap, ?_⟩
  have hreverse := congrArg List.reverse heq
  simpa [trimEnd, trimStart] using hreverse

/-! ## Both ends -/

theorem trim_eq_self_iff :
    t.trim = t ↔ (∀ c, t.head? = some c → isBlank c = false) ∧
      ∀ c, t.getLast? = some c → isBlank c = false := by
  rw [← trimStart_eq_self_iff, ← trimEnd_eq_self_iff]
  constructor
  · intro h
    -- both cuts leave the length as it is, so the first one cuts nothing
    have hlength : t.trimStart.length = t.length := by
      have hend := length_trimEnd_le t.trimStart
      have hall := congrArg List.length h
      have hstart := length_trimStart_le t
      rw [trim] at hall
      omega
    have hstart : t.trimStart = t := (List.dropWhile_suffix isBlank).eq_of_length hlength
    refine ⟨hstart, ?_⟩
    rw [trim, hstart] at h
    exact h
  · rintro ⟨hstart, hend⟩
    rw [trim, hstart, hend]

theorem trimStart_of_trimmed (h : t.trim = t) : t.trimStart = t :=
  trimStart_eq_self_iff.2 (trim_eq_self_iff.1 h).1

theorem trimEnd_of_trimmed (h : t.trim = t) : t.trimEnd = t :=
  trimEnd_eq_self_iff.2 (trim_eq_self_iff.1 h).2

/-- A text between two trimmed ones that are not empty does not matter for trimming. -/
theorem trim_append_append (ht : t.trim = t) (htne : t ≠ []) (hu : u.trim = u) (hune : u ≠ [])
    (between : Text) : (t ++ between ++ u).trim = t ++ between ++ u := by
  rw [trim_eq_self_iff] at ht hu ⊢
  constructor
  · intro c hc
    rw [List.append_assoc, List.head?_append_of_ne_nil t htne] at hc
    exact ht.1 c hc
  · intro c hc
    rw [List.getLast?_append_of_ne_nil _ hune] at hc
    exact hu.2 c hc

/-- White space before a trimmed text is cut off. -/
theorem trim_cons_blank {c : Char} (hc : isBlank c = true) (h : t.trim = t) :
    trim (c :: t) = t := by
  have hstart : trimStart (c :: t) = t := by
    rw [trimStart, List.dropWhile_cons_of_pos hc]
    exact trimStart_of_trimmed h
  rw [trim, hstart, trimEnd_of_trimmed h]

/-- A trimmed text that is not empty is not blank. -/
theorem isBlankText_of_trimmed (h : t.trim = t) (hne : t ≠ []) : t.isBlankText = false := by
  cases t with
  | nil => exact absurd rfl hne
  | cons c t =>
    have hc := (trim_eq_self_iff.1 h).1 c rfl
    simp [isBlankText, hc]

theorem trim_trim (t : Text) : t.trim.trim = t.trim := by
  have hstart : t.trim.trimStart = t.trim := by
    rw [trimStart_eq_self_iff]
    intro c hc
    -- the end that is cut off does not hold the first character
    obtain ⟨gap, -, heq⟩ := exists_trimEnd t.trimStart
    have hhead : t.trimStart.head? = some c := by
      rw [heq, List.head?_append, ← trim, hc]
      rfl
    exact trimStart_eq_self_iff.1 (trimStart_trimStart t) c hhead
  rw [trim, hstart, trim, trimEnd_trimEnd]

/-- White space behind a trimmed text is cut off. -/
theorem trim_append_blank (h : t.trim = t) (hne : t ≠ []) (hgap : gap.isBlankText = true) :
    trim (t ++ gap) = t := by
  have hstart : trimStart (t ++ gap) = t ++ gap := by
    rw [trimStart_eq_self_iff]
    intro c hc
    rw [List.head?_append_of_ne_nil t hne] at hc
    exact (trim_eq_self_iff.1 h).1 c hc
  rw [trim, hstart, trimEnd_append_blank hgap, trimEnd_of_trimmed h]

theorem trim_of_blank (h : t.isBlankText = true) : t.trim = [] := by
  have hstart := trimStart_append_blank h []
  rw [List.append_nil] at hstart
  rw [trim, hstart]
  rfl

theorem isBlankText_of_trim_eq_nil (h : t.trim = []) : t.isBlankText = true := by
  rcases exists_trimStart t with ⟨front, hfront, hstart⟩
  rcases exists_trimEnd t.trimStart with ⟨back, hback, hend⟩
  rw [← trim, h, List.nil_append] at hend
  rw [hstart, hend, isBlankText, List.all_append, Bool.and_eq_true]
  exact ⟨hfront, hback⟩

theorem isBlankText_trim (h : t.isBlankText = false) : t.trim.isBlankText = false := by
  refine isBlankText_of_trimmed (trim_trim t) ?_
  intro hnil
  rw [isBlankText_of_trim_eq_nil hnil] at h
  cases h

theorem isBlankText_trimStart (t : Text) : t.trimStart.isBlankText = t.isBlankText := by
  obtain ⟨gap, hgap, heq⟩ := exists_trimStart t
  conv_rhs => rw [heq, isBlankText_append, hgap, Bool.true_and]

/-- The end of a trimmed text is trimmed if it does not begin with white space. -/
theorem trim_of_suffix (h : t.trim = t) (hsuffix : u <:+ t) (hstart : u.trimStart = u) :
    u.trim = u := by
  cases u with
  | nil => rfl
  | cons c u =>
    rw [trim_eq_self_iff]
    refine ⟨trimStart_eq_self_iff.1 hstart, ?_⟩
    intro d hd
    rw [← getLast?_of_suffix hsuffix (List.cons_ne_nil c u)] at hd
    exact (trim_eq_self_iff.1 h).2 d hd

/-- The beginning of a trimmed text is trimmed if it does not end with white space. -/
theorem trim_of_prefix (h : t.trim = t) (hbegins : u <+: t) (hend : u.trimEnd = u) :
    u.trim = u := by
  rw [trim_eq_self_iff]
  refine ⟨?_, trimEnd_eq_self_iff.1 hend⟩
  intro c hc
  obtain ⟨rest, rfl⟩ := hbegins
  refine (trim_eq_self_iff.1 h).1 c ?_
  rw [List.head?_append, hc]
  rfl

/-- The beginning of a trimmed text has white space at its end alone. -/
theorem exists_trim_of_prefix (h : (t ++ u).trim = t ++ u) :
    ∃ gap, isBlankText gap = true ∧ t = t.trim ++ gap := by
  have hstart : t.trimStart = t := by
    rw [trimStart_eq_self_iff]
    intro c hc
    refine (trim_eq_self_iff.1 h).1 c ?_
    rw [List.head?_append, hc]
    rfl
  obtain ⟨gap, hgap, heq⟩ := exists_trimEnd t
  refine ⟨gap, hgap, ?_⟩
  rw [trim, hstart]
  exact heq

/-! ## Around a character that is no white space -/

section

variable {c : Char} (hc : isBlank c = false)

include hc

theorem trimStart_append_cons (t u : Text) :
    trimStart (t ++ c :: u) = t.trimStart ++ c :: u := by
  rw [trimStart, trimStart, List.dropWhile_append]
  split
  · rename_i hnil
    rw [List.isEmpty_iff.1 hnil, List.dropWhile_cons_of_neg (by simp [hc]), List.nil_append]
  · rfl

theorem trimEnd_append_cons (t u : Text) : trimEnd (t ++ c :: u) = t ++ c :: u.trimEnd := by
  have hstart := trimStart_append_cons hc u.reverse t.reverse
  simp only [trimStart] at hstart
  rw [trimEnd, trimEnd, List.reverse_append, List.reverse_cons, List.append_assoc,
    List.singleton_append, hstart]
  simp

/-- What stands around a character that is no white space is trimmed at its outer end. -/
theorem trim_append_cons (t u : Text) : trim (t ++ c :: u) = t.trimStart ++ c :: u.trimEnd := by
  rw [trim, trimStart_append_cons hc, trimEnd_append_cons hc]

/-- Where a text goes on with a character that is no white space, trimming does not hide it. -/
theorem not_trim_prefix_trim (h : t ++ [c] <+: u) : ¬u.trim <+: t.trim := by
  obtain ⟨rest, rfl⟩ := h
  rw [List.append_assoc, List.singleton_append, trim_append_cons hc]
  intro hbegins
  have hlong := hbegins.length_le
  have hshort : t.trim.length ≤ t.trimStart.length := length_trimEnd_le t.trimStart
  rw [List.length_append, List.length_cons] at hlong
  omega

end

/-- A text that is not blank ends in a character that is no white space, and white space. -/
theorem exists_last_of_not_blank (h : t.isBlankText = false) :
    ∃ u c gap, t = u ++ c :: gap ∧ isBlank c = false ∧ isBlankText gap = true := by
  obtain ⟨gap, hgap, heq⟩ := exists_trimEnd t
  have hne : t.trimEnd ≠ [] := by
    intro hnil
    rw [heq, hnil, List.nil_append, hgap] at h
    cases h
  refine ⟨t.trimEnd.dropLast, t.trimEnd.getLast hne, gap, ?_, ?_, hgap⟩
  · rw [← List.singleton_append, ← List.append_assoc, List.dropLast_append_getLast hne]
    exact heq
  · exact trimEnd_eq_self_iff.1 (trimEnd_trimEnd t) _ (List.getLast?_eq_some_getLast hne)

theorem trimEnd_append_of_not_blank (h : u.isBlankText = false) (t : Text) :
    trimEnd (t ++ u) = t ++ u.trimEnd := by
  obtain ⟨v, c, gap, rfl, hc, -⟩ := exists_last_of_not_blank h
  rw [← List.append_assoc, trimEnd_append_cons hc, trimEnd_append_cons hc, List.append_assoc]

theorem trimEnd_of_blank (h : t.isBlankText = true) : t.trimEnd = [] := by
  have hend := trimEnd_append_blank h []
  rw [List.nil_append] at hend
  rw [hend]
  rfl

theorem trim_trimEnd (t : Text) : t.trimEnd.trim = t.trim := by
  cases hblank : t.isBlankText with
  | true => rw [trimEnd_of_blank hblank, trim_of_blank hblank, trim_of_blank rfl]
  | false =>
    obtain ⟨u, c, gap, rfl, hc, -⟩ := exists_last_of_not_blank hblank
    rw [trimEnd_append_cons hc, trim_append_cons hc, trim_append_cons hc, trimEnd_trimEnd]

theorem trim_sublist (t : Text) : t.trim.Sublist t := by
  obtain ⟨gap, -, heq⟩ := exists_trimEnd t.trimStart
  have hend : t.trim.Sublist t.trimStart := by
    conv_rhs => rw [heq]
    exact List.sublist_append_left t.trim gap
  exact hend.trans (List.dropWhile_sublist isBlank)

/-- What a text begins with it also begins with when both are trimmed. -/
theorem trim_prefix_trim (h : t <+: u) : t.trim <+: u.trim := by
  cases hblank : t.isBlankText with
  | true =>
    rw [trim_of_blank hblank]
    exact List.nil_prefix
  | false =>
    obtain ⟨t, c, gap, rfl, hc, hgap⟩ := exists_last_of_not_blank hblank
    obtain ⟨rest, rfl⟩ := h
    rw [List.append_assoc, List.cons_append, trim_append_cons hc, trim_append_cons hc,
      trimEnd_of_blank hgap]
    exact (List.prefix_append_right_inj _).2 (List.cons_prefix_cons.2 ⟨rfl, List.nil_prefix⟩)

/-! ## Comments -/

/-- A text is cut at the first place where the character stands. -/
theorem splitFirst?_eq_some_iff {sep : Char} {before after : Text} :
    t.splitFirst? sep = some (before, after) ↔ t = before ++ sep :: after ∧ sep ∉ before := by
  induction t generalizing before with
  | nil => simp [splitFirst?]
  | cons c t ih =>
    by_cases hc : c = sep
    · subst hc
      simp only [splitFirst?, if_true, Option.some.injEq, Prod.mk.injEq]
      constructor
      · rintro ⟨rfl, rfl⟩
        exact ⟨rfl, List.not_mem_nil⟩
      · rintro ⟨heq, hfirst⟩
        cases before with
        | nil => exact ⟨rfl, (List.cons.inj heq).2⟩
        | cons d before =>
          rw [(List.cons.inj heq).1] at hfirst
          exact absurd List.mem_cons_self hfirst
    · simp only [splitFirst?, hc, if_false, Option.map_eq_some_iff, Prod.exists, Prod.mk.injEq]
      constructor
      · rintro ⟨before', after', hrest, rfl, rfl⟩
        obtain ⟨rfl, hfirst⟩ := ih.1 hrest
        refine ⟨rfl, ?_⟩
        rw [List.mem_cons, not_or]
        exact ⟨fun heq => hc heq.symm, hfirst⟩
      · rintro ⟨heq, hfirst⟩
        cases before with
        | nil => exact absurd (List.cons.inj heq).1 hc
        | cons d before =>
          obtain ⟨rfl, hrest⟩ := List.cons.inj heq
          rw [List.mem_cons, not_or] at hfirst
          exact ⟨before, after, ih.2 ⟨hrest, hfirst.2⟩, rfl, rfl⟩

/-- A character that stands in a text stands somewhere first. -/
theorem exists_splitFirst? {sep : Char} (h : sep ∈ t) :
    ∃ before after, t.splitFirst? sep = some (before, after) := by
  obtain ⟨before, after, rfl, hfirst⟩ := List.eq_append_cons_of_mem h
  exact ⟨before, after, splitFirst?_eq_some_iff.2 ⟨rfl, hfirst⟩⟩

/-- And it can be cut at the last one. -/
theorem splitLast?_eq_some_iff {sep : Char} {before after : Text} :
    t.splitLast? sep = some (before, after) ↔ t = before ++ sep :: after ∧ sep ∉ after := by
  simp only [splitLast?, Option.map_eq_some_iff, splitFirst?_eq_some_iff, Prod.exists,
    Prod.mk.injEq]
  constructor
  · rintro ⟨after', before', ⟨hreverse, hlast⟩, rfl, rfl⟩
    refine ⟨?_, by simpa using hlast⟩
    rw [← List.reverse_reverse t, hreverse]
    simp
  · rintro ⟨rfl, hlast⟩
    exact ⟨after.reverse, before.reverse, ⟨by simp, by simpa using hlast⟩, by simp, by simp⟩

theorem splitFirst?_eq_none {sep : Char} (h : sep ∉ t) : t.splitFirst? sep = none := by
  induction t with
  | nil => rfl
  | cons c t ih =>
    rw [List.mem_cons, not_or] at h
    have hne : ¬c = sep := fun heq => h.1 heq.symm
    simp [splitFirst?, hne, ih h.2]

/-- Of a line without a semicolon only the white space at its ends is cut off. -/
theorem stripComment_trimStart (hcomment : ';' ∉ t) : t.trimStart.stripComment = t.trim := by
  have hstart : ';' ∉ t.trimStart := fun hmem =>
    hcomment ((List.dropWhile_suffix isBlank).subset hmem)
  unfold stripComment
  rw [splitFirst?_eq_none hstart]
  split
  · rename_i hblank
    rw [trim, trimEnd_of_blank hblank]
  · rfl

/-- A trimmed line without a semicolon has no comment to be cut off. -/
theorem stripComment_eq_self (h : t.trim = t) (hcomment : ';' ∉ t) : t.stripComment = t := by
  cases t with
  | nil => rfl
  | cons c t =>
    have hblank := isBlankText_of_trimmed h (List.cons_ne_nil c t)
    simp only [stripComment, hblank, Bool.false_eq_true, if_false, splitFirst?_eq_none hcomment]
    exact trimEnd_of_trimmed h

end Text

end ScriptScan
