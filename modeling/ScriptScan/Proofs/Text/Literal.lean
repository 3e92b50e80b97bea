import ScriptScan.Text.Literal

/-!
# The first character outside literals

Cutting a text at a character outside literals finds the first such place, and finds none only if
there is none. Readers that cut at a character differ in the states that they keep, so what it means
that there is no place to cut (`NeverMeets`) is said of any reader.
-/

namespace ScriptScan

/-! ## Meeting a character in a state -/

namespace Text

variable {σ : Type} {step : σ → Char → σ} {stop s : σ} {sep c : Char} {t u : Text}

/-- Whether a reader that starts in the state `s` is never in the state `stop` where the character
`sep` stands. -/
def NeverMeets (step : σ → Char → σ) (stop : σ) (sep : Char) (s : σ) (t : Text) : Prop :=
  ∀ pre post, t = pre ++ sep :: post → pre.foldl step s ≠ stop

theorem neverMeets_cons :
    NeverMeets step stop sep s (c :: t) ↔
      ¬(s = stop ∧ c = sep) ∧ NeverMeets step stop sep (step s c) t := by
  constructor
  · intro h
    refine ⟨?_, ?_⟩
    · rintro ⟨rfl, rfl⟩
      exact h [] t rfl rfl
    · rintro pre post rfl
      exact h (c :: pre) post rfl
  · rintro ⟨hhead, htail⟩ pre post heq
    cases pre with
    | nil =>
      intro hs
      exact hhead ⟨hs, (List.cons.inj heq).1⟩
    | cons d pre =>
      obtain ⟨rfl, hrest⟩ := List.cons.inj heq
      exact htail pre post hrest

theorem neverMeets_nil : NeverMeets step stop sep s [] := by
  rintro pre post heq
  simp at heq

theorem neverMeets_of_not_mem (h : sep ∉ t) : NeverMeets step stop sep s t := by
  rintro pre post rfl
  simp at h

end Text

/-! ## Literals -/

namespace Literal

/-- Whether the literal that the reader is in, if any, was opened by a quote. -/
def Proper (s : Literal) : Prop :=
  ∀ q, s = inside q → isQuote q = true

theorem proper_outside : outside.Proper := by
  intro q hq
  cases hq

theorem Proper.step {s : Literal} (h : s.Proper) (c : Char) : (s.step c).Proper := by
  intro q hq
  cases s with
  | outside =>
    by_cases hc : isQuote c = true
    · simp only [Literal.step, hc, if_true, inside.injEq] at hq
      rw [← hq]
      exact hc
    · simp [Literal.step, hc] at hq
  | inside opened =>
    by_cases hc : c = opened
    · simp [Literal.step, hc] at hq
    · simp only [Literal.step, hc, if_false] at hq
      exact h q hq

/-- Only quotes open and close literals. -/
theorem Proper.step_eq_self {s : Literal} (h : s.Proper) {c : Char} (hc : isQuote c = false) :
    s.step c = s := by
  cases s with
  | outside => simp [Literal.step, hc]
  | inside q =>
    have hne : c ≠ q := by
      rintro rfl
      rw [h c rfl] at hc
      cases hc
    simp [Literal.step, hne]

theorem Proper.run {s : Literal} (h : s.Proper) (t : Text) : (s.run t).Proper := by
  induction t generalizing s with
  | nil => exact h
  | cons c t ih => exact ih (h.step c)

theorem Proper.run_eq_self {s : Literal} (h : s.Proper) {t : Text}
    (ht : ∀ c ∈ t, isQuote c = false) : s.run t = s := by
  induction t with
  | nil => rfl
  | cons c t ih =>
    obtain ⟨hc, ht⟩ := List.forall_mem_cons.1 ht
    rw [run_cons, h.step_eq_self hc]
    exact ih ht

/-! ## Cutting -/

variable {sep : Char} {s : Literal} {t before after : Text}

/-- A text is not cut if the character stands nowhere outside literals. -/
theorem splitOutside?_eq_none_iff :
    splitOutside? sep s t = none ↔ Text.NeverMeets Literal.step outside sep s t := by
  induction t generalizing s with
  | nil => simp [splitOutside?, Text.neverMeets_nil]
  | cons c t ih =>
    by_cases hcut : s = outside ∧ c = sep
    · simp [splitOutside?, Text.neverMeets_cons, hcut]
    · simp [splitOutside?, Text.neverMeets_cons, hcut, ih]

/-- A text is cut at the first place outside literals where the character stands. -/
theorem splitOutside?_eq_some_iff :
    splitOutside? sep s t = some (before, after) ↔
      t = before ++ sep :: after ∧ s.run before = outside ∧
        Text.NeverMeets Literal.step outside sep s before := by
  induction t generalizing s before with
  | nil => simp [splitOutside?]
  | cons c t ih =>
    by_cases hcut : s = outside ∧ c = sep
    · obtain ⟨rfl, rfl⟩ := hcut
      simp only [splitOutside?, and_self, if_true, Option.some.injEq, Prod.mk.injEq]
      constructor
      · rintro ⟨rfl, rfl⟩
        exact ⟨rfl, rfl, Text.neverMeets_nil⟩
      · rintro ⟨heq, -, hfirst⟩
        cases before with
        | nil => exact ⟨rfl, (List.cons.inj heq).2⟩
        | cons d before =>
          -- the character would stand in the part before the cut
          obtain ⟨rfl, -⟩ := List.cons.inj heq
          exact absurd ⟨rfl, rfl⟩ (Text.neverMeets_cons.1 hfirst).1
    · simp only [splitOutside?, hcut, if_false, Option.map_eq_some_iff, Prod.exists, Prod.mk.injEq]
      constructor
      · rintro ⟨before', after', hrest, rfl, rfl⟩
        obtain ⟨rfl, hout, hfirst⟩ := ih.1 hrest
        exact ⟨rfl, hout, Text.neverMeets_cons.2 ⟨hcut, hfirst⟩⟩
      · rintro ⟨heq, hout, hfirst⟩
        cases before with
        | nil => exact absurd ⟨hout, (List.cons.inj heq).1⟩ hcut
        | cons d before =>
          obtain ⟨rfl, rfl⟩ := List.cons.inj heq
          exact ⟨before, after, ih.2 ⟨rfl, hout, (Text.neverMeets_cons.1 hfirst).2⟩, rfl, rfl⟩

/-- Whether a character that stands behind a text is the first of its kind outside literals. -/
structure IsFirst (sep : Char) (before : Text) : Prop where
  outside : before.endsOutsideLiteral = true
  none_before : ∀ pre post, before = pre ++ sep :: post → pre.endsOutsideLiteral = false

theorem isFirst_iff :
    IsFirst sep before ↔
      outside.run before = outside ∧ Text.NeverMeets Literal.step outside sep outside before := by
  constructor
  · rintro ⟨hout, hnone⟩
    refine ⟨beq_iff_eq.1 hout, ?_⟩
    intro pre post heq
    exact beq_eq_false_iff_ne.1 (hnone pre post heq)
  · rintro ⟨hout, hnone⟩
    refine ⟨beq_iff_eq.2 hout, ?_⟩
    intro pre post heq
    exact beq_eq_false_iff_ne.2 (hnone pre post heq)

/-- A text that begins outside literals is cut at the first such place. -/
theorem splitOutside?_eq_some_iff_isFirst :
    outside.splitOutside? sep t = some (before, after) ↔
      t = before ++ sep :: after ∧ IsFirst sep before := by
  rw [splitOutside?_eq_some_iff, isFirst_iff]

/-- A character is the first of its kind if no quote and no such character stands before it. -/
theorem isFirst_of_plain {sep : Char} {t : Text} (hquote : ∀ c ∈ t, isQuote c = false)
    (hsep : sep ∉ t) : IsFirst sep t := by
  rw [isFirst_iff]
  constructor
  · exact proper_outside.run_eq_self hquote
  · exact Text.neverMeets_of_not_mem hsep

end Literal

/-- Text without quotes does not leave the literal that it begins in. -/
theorem Text.endsOutsideLiteral_append {t u : Text} (hu : ∀ c ∈ u, isQuote c = false) :
    (t ++ u).endsOutsideLiteral = t.endsOutsideLiteral := by
  have hproper := Literal.proper_outside.run t
  rw [endsOutsideLiteral, endsOutsideLiteral, Literal.run_append, hproper.run_eq_self hu]

end ScriptScan
