import ScriptScan.Text.Basic

/-!
# Whole lines

A text that is empty or ends with a line feed is made of whole lines. What is put behind it begins a
line of its own, so the lines of both are the lines of one and then of the other.
-/

namespace ScriptScan

namespace Text

/-- Whether a text is made of whole lines. -/
def WholeLines (t : Text) : Prop :=
  ∀ c, t.getLast? = some c → c = '\n'

instance (t : Text) : Decidable t.WholeLines :=
  decidable_of_iff (t.getLast?.all (· = '\n') = true) (by simp [WholeLines, Option.all_eq_true])

theorem WholeLines.tail {c : Char} {t : Text} (h : WholeLines (c :: t)) : t.WholeLines := by
  intro x hx
  refine h x ?_
  cases t with
  | nil => cases hx
  | cons d t => rw [List.getLast?_cons_cons, hx]

theorem WholeLines.append {t u : Text} (ht : t.WholeLines) (hu : u.WholeLines) :
    WholeLines (t ++ u) := by
  intro c hc
  rw [List.getLast?_append] at hc
  cases h : u.getLast? with
  | none => exact ht c (by simpa [h] using hc)
  | some d => exact hu c (by simpa [h] using hc)

theorem lines_eq_nil {t : Text} (h : t.lines = []) : t = [] := by
  fun_cases lines t
  · rfl
  all_goals simp_all [lines]

theorem feed_not_mem_of_mem_lines {t l : Text} (h : l ∈ t.lines) : '\n' ∉ l := by
  fun_induction lines t generalizing l with
  | case1 => cases h
  | case2 t ih =>
    rcases List.mem_cons.1 h with rfl | h
    · exact List.not_mem_nil
    · exact ih h
  | case3 t ih =>
    rcases List.mem_cons.1 h with rfl | h
    · exact List.not_mem_nil
    · exact ih h
  | case4 c t hfeed hreturn hnil ih =>
    rw [List.mem_singleton.1 h, List.mem_singleton]
    exact fun hc => hfeed hc.symm
  | case5 c t hfeed hreturn first ls hlines ih =>
    rcases List.mem_cons.1 h with rfl | h
    · -- the first line is one character longer than that of the rest
      rw [List.mem_cons, not_or]
      refine ⟨fun hc => hfeed hc.symm, ih ?_⟩
      rw [hlines]
      exact List.mem_cons_self
    · refine ih ?_
      rw [hlines]
      exact List.mem_cons_of_mem _ h

/-- A text without a line feed is one line. -/
theorem lines_eq_singleton {t : Text} (hfeed : '\n' ∉ t) (hne : t ≠ []) : t.lines = [t] := by
  fun_induction lines t with
  | case1 => exact absurd rfl hne
  | case2 t ih => simp at hfeed
  | case3 t ih => simp at hfeed
  | case4 c t _ _ hnil ih => rw [lines_eq_nil hnil]
  | case5 c t _ _ l ls hlines ih =>
    rw [List.mem_cons, not_or] at hfeed
    have hne' : t ≠ [] := by
      rintro rfl
      cases hlines
    rw [ih hfeed.2 hne'] at hlines
    cases hlines
    rfl

/-- The lines of a text that begins with whole lines. -/
theorem lines_append {t : Text} (h : t.WholeLines) (u : Text) :
    lines (t ++ u) = t.lines ++ u.lines := by
  fun_induction lines t with
  | case1 => rfl
  | case2 t ih => simp [lines, ih h.tail]
  | case3 t ih => simp [lines, ih h.tail.tail]
  | case4 c t hfeed hreturn hnil ih =>
    -- no text is left behind the character, so it should have been a line feed
    rw [lines_eq_nil hnil] at h
    exact absurd (h c rfl) (by simpa using hfeed)
  | case5 c t hfeed hreturn l ls hlines ih =>
    have hrest : lines (t ++ u) = l :: ls ++ u.lines := by
      rw [ih h.tail, hlines]
    have hreturn' : ∀ t', c = '\r' → t ++ u = '\n' :: t' → False := by
      intro t' hc ht
      cases t with
      | nil => simp [lines] at hlines
      | cons d t =>
        rcases List.cons.inj ht with ⟨rfl, -⟩
        exact hreturn t hc rfl
    rw [List.cons_append, lines, hrest]
    · rfl
    · exact hfeed
    · exact hreturn'

end Text

end ScriptScan
