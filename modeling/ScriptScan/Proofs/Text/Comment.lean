import ScriptScan.Proofs.Text.Trim

/-!
# Where a line is cut

Cutting the comment off a line looks at quotes alone, and never asks which literal they belong to. So
it can be said by counting: each rule cuts at the first semicolon with certain numbers of quotes
before it or behind it.

* `Text.BareCut`, `Text.PlainCut` and `Text.RunCut` are the rules; the last one is both rules about
  complete runs, each with its own quote.
* `QuotedRuns.behind` is where the reader of runs stands, computed from the text behind it.
* `Text.Cut` says which rule applies. A line has one cut at most (`Text.Cut.unique`), and what is left
  of it is what stands before the cut, or the whole line (`Text.trim_stripComment_cases`).
-/

namespace ScriptScan

namespace Text

variable {line before : Text}

/-! ## The rules -/

/-- Whether a semicolon of the line has no quote behind it. -/
def HasBareComment (line : Text) : Prop :=
  ∃ before after, line = before ++ ';' :: after ∧ ∀ c ∈ after, isQuote c = false

/-- Whether the line is cut at its first semicolon with no quote behind it. -/
structure BareCut (line before : Text) : Prop where
  exists_after : ∃ after, line = before ++ ';' :: after ∧ ∀ c ∈ after, isQuote c = false
  first : ∀ pre post, before = pre ++ ';' :: post → ∃ c ∈ post, isQuote c = true

/-- Whether the line is cut at its first semicolon, behind an even number of quotes of each kind. -/
structure PlainCut (line before : Text) : Prop where
  exists_after : ∃ after, line = before ++ ';' :: after
  first : ';' ∉ before
  even_double : before.count '"' % 2 = 0
  even_single : before.count '\'' % 2 = 0
  not_interpolated : line.hasInterpolation = false

/-- Whether what stands behind `lead` is cut at its first semicolon behind an even number of quotes of
one kind, and behind at least two of them unless the line begins with the semicolon. -/
structure RunCut (quote : Char) (lead line before : Text) : Prop where
  exists_after : ∃ after, line = before ++ ';' :: after ∧ '\n' ∉ after
  even : (lead ++ before).count quote % 2 = 0
  runs : lead ++ before = [] ∨ quote ∈ lead ++ before
  first : ∀ pre post, before = pre ++ ';' :: post → (lead ++ pre).count quote % 2 = 1

/-- Where a line is cut whose semicolons all have a quote behind them: by the first of the other
rules that applies. -/
inductive QuotedCut (line before : Text) : Prop where
  | plain (h : line.PlainCut before)
  | double (hplain : ∀ t, ¬line.PlainCut t) (h : RunCut '"' [] line before)
  | single (hplain : ∀ t, ¬line.PlainCut t) (hdouble : ∀ t, ¬RunCut '"' [] line t)
    (h : RunCut '\'' [] line before)

/-- Where a line is cut. -/
inductive Cut (line before : Text) : Prop where
  | bare (h : line.BareCut before)
  | quoted (hbare : ¬line.HasBareComment) (h : line.QuotedCut before)

/-! ## The first rule -/

theorem isSome_beforeBareComment? (h : line.HasBareComment) :
    line.beforeBareComment?.isSome = true := by
  obtain ⟨before, after, rfl, hafter⟩ := h
  have hany : after.any isQuote = false := by simpa using hafter
  induction before with
  | nil => simp [beforeBareComment?, hany]
  | cons c before ih =>
    rw [List.cons_append, beforeBareComment?]
    split
    · rfl
    · rw [Option.isSome_map]
      exact ih

theorem beforeBareComment?_eq_some_iff :
    line.beforeBareComment? = some before ↔ line.BareCut before := by
  induction line generalizing before with
  | nil =>
    refine iff_of_false (by simp [beforeBareComment?]) ?_
    rintro ⟨⟨after, heq, -⟩, -⟩
    simp at heq
  | cons c line ih =>
    -- either the character is the semicolon, or it stands before the cut
    by_cases hcut : c = ';' ∧ (!line.any isQuote) = true
    · have hline : ∀ d ∈ line, isQuote d = false := by simpa using hcut.2
      obtain ⟨rfl, -⟩ := hcut
      rw [beforeBareComment?, if_pos ⟨rfl, by simpa using hline⟩, Option.some.injEq]
      constructor
      · rintro rfl
        exact ⟨⟨line, rfl, hline⟩, by simp⟩
      · rintro ⟨⟨after, heq, -⟩, hfirst⟩
        cases before with
        | nil => rfl
        | cons d before =>
          -- this semicolon comes before, and has no quote behind it
          obtain ⟨rfl, hrest⟩ := List.cons.inj heq
          obtain ⟨q, hq, hquote⟩ := hfirst [] before rfl
          rw [hline q (by rw [hrest]; exact List.mem_append_left _ hq)] at hquote
          cases hquote
    · rw [beforeBareComment?, if_neg hcut, Option.map_eq_some_iff]
      constructor
      · rintro ⟨before', hrest, rfl⟩
        obtain ⟨⟨after, rfl, hafter⟩, hfirst⟩ := ih.1 hrest
        refine ⟨⟨after, rfl, hafter⟩, ?_⟩
        intro pre post heq
        cases pre with
        | nil =>
          -- this semicolon was passed over, because it has a quote behind it
          obtain ⟨rfl, rfl⟩ := List.cons.inj heq
          have hany : (before' ++ ';' :: after).any isQuote = true := by
            by_contra hno
            exact hcut ⟨rfl, by simpa using hno⟩
          obtain ⟨q, hq, hquote⟩ := List.any_eq_true.1 hany
          rcases List.mem_append.1 hq with hq | hq
          · exact ⟨q, hq, hquote⟩
          · have hno : ∀ d ∈ ';' :: after, isQuote d = false :=
              List.forall_mem_cons.2 ⟨by decide, hafter⟩
            rw [hno q hq] at hquote
            cases hquote
        | cons d pre =>
          obtain ⟨rfl, hrest⟩ := List.cons.inj heq
          exact hfirst pre post hrest
      · rintro ⟨⟨after, heq, hafter⟩, hfirst⟩
        cases before with
        | nil =>
          obtain ⟨rfl, rfl⟩ := List.cons.inj heq
          exact absurd ⟨rfl, by simpa using hafter⟩ hcut
        | cons d before =>
          obtain ⟨rfl, hrest⟩ := List.cons.inj heq
          refine ⟨before, ih.2 ⟨⟨after, hrest, hafter⟩, ?_⟩, rfl⟩
          rintro pre post rfl
          exact hfirst (c :: pre) post rfl

theorem exists_bareCut (h : line.HasBareComment) : ∃ before, line.BareCut before := by
  obtain ⟨before, hbefore⟩ := Option.isSome_iff_exists.1 (isSome_beforeBareComment? h)
  exact ⟨before, beforeBareComment?_eq_some_iff.1 hbefore⟩

theorem BareCut.hasBareComment (h : line.BareCut before) : line.HasBareComment := by
  obtain ⟨after, heq, hafter⟩ := h.exists_after
  exact ⟨before, after, heq, hafter⟩

theorem beforeBareComment?_eq_none_iff :
    line.beforeBareComment? = none ↔ ¬line.HasBareComment := by
  rw [← Option.not_isSome_iff_eq_none, not_iff_not]
  constructor
  · intro h
    obtain ⟨before, hbefore⟩ := Option.isSome_iff_exists.1 h
    exact (beforeBareComment?_eq_some_iff.1 hbefore).hasBareComment
  · exact isSome_beforeBareComment?

end Text

/-! ## Complete runs of a quote -/

namespace QuotedRuns

variable {quote c : Char} {u line before : Text}

/-- Where a reader of quoted runs stands behind a text. -/
def behind (quote : Char) (u : Text) : QuotedRuns :=
  if u.count quote % 2 = 1 then quoted
  else if quote ∈ u then between
  else if u = [] then start
  else lead

theorem behind_of_odd (h : u.count quote % 2 = 1) : behind quote u = quoted :=
  if_pos h

theorem behind_of_mem (h : u.count quote % 2 = 0) (hmem : quote ∈ u) :
    behind quote u = between := by
  rw [behind, if_neg (by omega), if_pos hmem]

theorem behind_of_not_mem (hmem : quote ∉ u) :
    behind quote u = if u = [] then start else lead := by
  have hcount : u.count quote = 0 := List.count_eq_zero.2 hmem
  rw [behind, hcount, if_neg (by omega), if_neg hmem]

theorem behind_ne_quoted (h : u.count quote % 2 = 0) : behind quote u ≠ quoted := by
  by_cases hmem : quote ∈ u
  · rw [behind_of_mem h hmem]
    simp
  · rw [behind_of_not_mem hmem]
    split <;> simp

theorem mayCut_behind (h : u.count quote % 2 = 0) :
    (behind quote u).mayCut = true ↔ u = [] ∨ quote ∈ u := by
  by_cases hmem : quote ∈ u
  · simp [behind_of_mem h hmem, hmem, mayCut]
  · rw [behind_of_not_mem hmem]
    by_cases hnil : u = []
    · simp [hnil, mayCut]
    · simp [hnil, hmem, mayCut]

/-- The state behind one more character. -/
theorem behind_concat (c : Char) :
    behind quote (u ++ [c]) =
      if c = quote then (if behind quote u = quoted then between else quoted)
      else if behind quote u = quoted then quoted
      else if behind quote u = between then between
      else lead := by
  by_cases hodd : u.count quote % 2 = 1
  · -- inside a run, which only its quote ends
    rw [behind_of_odd hodd, if_pos rfl]
    by_cases hc : c = quote
    · rw [if_pos hc, hc, behind_of_mem (by simp; omega) (by simp)]
    · rw [if_neg hc, if_pos rfl, behind_of_odd (by simpa [List.count_append, hc] using hodd)]
  · -- outside of runs, and it only matters whether there was one
    have heven : u.count quote % 2 = 0 := by omega
    rw [if_neg (behind_ne_quoted heven), if_neg (behind_ne_quoted heven)]
    by_cases hc : c = quote
    · rw [if_pos hc, hc, behind_of_odd (by simp; omega)]
    · rw [if_neg hc]
      have hcount : (u ++ [c]).count quote % 2 = 0 := by simpa [List.count_append, hc] using heven
      by_cases hmem : quote ∈ u
      · rw [behind_of_mem heven hmem, if_pos rfl,
          behind_of_mem hcount (List.mem_append_left _ hmem)]
      · have hmem' : quote ∉ u ++ [c] := by simp [hmem, Ne.symm hc]
        have hne : behind quote u ≠ between := by
          rw [behind_of_not_mem hmem]
          split <;> simp
        rw [if_neg hne, behind_of_not_mem hmem', if_neg (by simp)]

/-- The reader cuts at a semicolon that stands in no run, or not at all. -/
theorem beforeComment?_cut (hquote : quote ≠ ';') (h : u.count quote % 2 = 0) :
    beforeComment? quote (behind quote u) (';' :: line) =
      if (u = [] ∨ quote ∈ u) ∧ '\n' ∉ line then some [] else none := by
  have hne := behind_ne_quoted h
  simp only [← mayCut_behind h]
  cases hs : behind quote u with
  | quoted => exact absurd hs hne
  | start => simp [beforeComment?, hquote.symm]
  | lead => simp [beforeComment?, hquote.symm]
  | between => simp [beforeComment?, hquote.symm]

/-- At any other character it goes on. -/
theorem beforeComment?_go (h : c = ';' → u.count quote % 2 = 1) :
    beforeComment? quote (behind quote u) (c :: line) =
      (beforeComment? quote (behind quote (u ++ [c])) line).map (c :: ·) := by
  rw [behind_concat]
  by_cases hodd : u.count quote % 2 = 1
  · simp [behind_of_odd hodd, beforeComment?]
  · have hsemi : c ≠ ';' := fun heq => hodd (h heq)
    have hne : behind quote u ≠ quoted := behind_ne_quoted (by omega)
    cases hs : behind quote u with
    | quoted => exact absurd hs hne
    | start => by_cases hc : c = quote <;> simp [beforeComment?, hc, hsemi]
    | lead => by_cases hc : c = quote <;> simp [beforeComment?, hc, hsemi]
    | between => by_cases hc : c = quote <;> simp [beforeComment?, hc, hsemi]

/-- What the reader does with the rest of a line depends on what stands before it only through the
state, which is the one behind that text. -/
theorem beforeComment?_behind (hquote : quote ≠ ';') :
    beforeComment? quote (behind quote u) line = some before ↔
      Text.RunCut quote u line before := by
  -- over what is left to read, for every text behind the reader
  induction line generalizing u before with
  | nil =>
    refine iff_of_false (by simp [beforeComment?]) ?_
    rintro ⟨⟨after, heq, -⟩, -⟩
    simp at heq
  | cons c line ih =>
    by_cases hcut : c = ';' ∧ u.count quote % 2 = 0
    · obtain ⟨rfl, heven⟩ := hcut
      rw [beforeComment?_cut hquote heven]
      constructor
      · intro h
        split at h
        · rename_i hmay
          cases h
          refine ⟨⟨line, rfl, hmay.2⟩, ?_, ?_, by simp⟩
          · rw [List.append_nil]
            exact heven
          · rw [List.append_nil]
            exact hmay.1
        · cases h
      · rintro ⟨⟨after, heq, hafter⟩, hcount, hruns, hfirst⟩
        cases before with
        | nil =>
          rw [List.append_nil] at hruns
          obtain ⟨-, rfl⟩ := List.cons.inj heq
          rw [if_pos ⟨hruns, hafter⟩]
        | cons d before =>
          -- the semicolon would stand behind an odd number of quotes
          obtain ⟨rfl, -⟩ := List.cons.inj heq
          have hodd := hfirst [] before rfl
          rw [List.append_nil] at hodd
          omega
    · have hgo : c = ';' → u.count quote % 2 = 1 := by
        intro hc
        have hne : ¬u.count quote % 2 = 0 := fun heven => hcut ⟨hc, heven⟩
        omega
      rw [beforeComment?_go hgo, Option.map_eq_some_iff]
      constructor
      · rintro ⟨before', hrest, rfl⟩
        obtain ⟨⟨after, rfl, hafter⟩, hcount, hruns, hfirst⟩ := ih.1 hrest
        rw [List.append_assoc, List.singleton_append] at hcount hruns
        refine ⟨⟨after, rfl, hafter⟩, hcount, hruns, ?_⟩
        intro pre post heq
        cases pre with
        | nil =>
          rw [List.append_nil]
          exact hgo (List.cons.inj heq).1
        | cons d pre =>
          obtain ⟨rfl, hrest⟩ := List.cons.inj heq
          have hodd := hfirst pre post hrest
          rwa [List.append_assoc, List.singleton_append] at hodd
      · rintro ⟨⟨after, heq, hafter⟩, hcount, hruns, hfirst⟩
        cases before with
        | nil =>
          obtain ⟨rfl, -⟩ := List.cons.inj heq
          rw [List.append_nil] at hcount
          exact absurd ⟨rfl, hcount⟩ hcut
        | cons d before =>
          obtain ⟨rfl, hrest⟩ := List.cons.inj heq
          refine ⟨before, ih.2 ⟨⟨after, hrest, hafter⟩, ?_, ?_, ?_⟩, rfl⟩
          · rwa [List.append_assoc, List.singleton_append]
          · rwa [List.append_assoc, List.singleton_append]
          · rintro pre post rfl
            rw [List.append_assoc, List.singleton_append]
            exact hfirst (c :: pre) post rfl

/-- A line is cut at the first semicolon that stands behind complete runs of the quote. -/
theorem beforeComment?_eq_some_iff (hquote : quote ≠ ';') :
    beforeComment? quote start line = some before ↔ Text.RunCut quote [] line before := by
  have hstart : behind quote [] = start := by simp [behind]
  rw [← hstart]
  exact beforeComment?_behind hquote

end QuotedRuns

/-! ## The line that is left -/

namespace Text

variable {line before : Text}

theorem Cut.exists_after (h : line.Cut before) : ∃ after, line = before ++ ';' :: after := by
  cases h with
  | bare h =>
    obtain ⟨after, heq, -⟩ := h.exists_after
    exact ⟨after, heq⟩
  | quoted hbare h =>
    cases h with
    | plain h => exact h.exists_after
    | double hplain h =>
      obtain ⟨after, heq, -⟩ := h.exists_after
      exact ⟨after, heq⟩
    | single hplain hdouble h =>
      obtain ⟨after, heq, -⟩ := h.exists_after
      exact ⟨after, heq⟩

/-- The rule for the first semicolon, where the first semicolon is known. -/
theorem plainCut_iff {first after : Text} (hfirst : line.splitFirst? ';' = some (first, after)) :
    line.PlainCut before ↔ before = first ∧
      (!line.hasInterpolation && first.count '"' % 2 == 0 && first.count '\'' % 2 == 0) = true := by
  simp only [Bool.and_eq_true, Bool.not_eq_true', beq_iff_eq]
  constructor
  · rintro ⟨⟨after', heq⟩, hnone, hdouble, hsingle, hplain⟩
    rw [splitFirst?_eq_some_iff.2 ⟨heq, hnone⟩] at hfirst
    cases hfirst
    exact ⟨rfl, ⟨hplain, hdouble⟩, hsingle⟩
  · rintro ⟨rfl, ⟨hplain, hdouble⟩, hsingle⟩
    obtain ⟨heq, hnone⟩ := splitFirst?_eq_some_iff.1 hfirst
    exact ⟨⟨after, heq⟩, hnone, hdouble, hsingle, hplain⟩

/-- What is left of a line is what stands before a cut, or the whole line if there is no cut. -/
theorem trim_stripComment_cases (line : Text) :
    (∃ before, line.Cut before ∧ line.stripComment.trim = before.trim) ∨
      (∀ before, ¬line.Cut before) ∧ line.stripComment.trim = line.trim := by
  unfold stripComment
  split
  · -- a line of white space has no semicolon
    rename_i hblank
    refine .inr ⟨?_, by rw [trim_of_blank hblank]; rfl⟩
    intro before hcut
    obtain ⟨after, rfl⟩ := hcut.exists_after
    have hsemi := List.all_eq_true.1 hblank ';' (by simp)
    exact absurd hsemi (by decide)
  · -- the rules in the order in which they are tried
    cases hfirst : line.splitFirst? ';' with
    | none =>
      refine .inr ⟨?_, trim_trimEnd line⟩
      intro before hcut
      obtain ⟨after, rfl⟩ := hcut.exists_after
      have hmem : ';' ∈ before ++ ';' :: after := by simp
      obtain ⟨_, _, hsome⟩ := exists_splitFirst? hmem
      rw [hsome] at hfirst
      cases hfirst
    | some found =>
      obtain ⟨first, after⟩ := found
      cases hbare : line.beforeBareComment? with
      | some before =>
        exact .inl ⟨before, .bare (beforeBareComment?_eq_some_iff.1 hbare), trim_trimEnd before⟩
      | none =>
        have hno := beforeBareComment?_eq_none_iff.1 hbare
        by_cases heven : (!line.hasInterpolation && first.count '"' % 2 == 0 &&
            first.count '\'' % 2 == 0) = true
        · simp only [heven, if_true]
          exact .inl ⟨first, .quoted hno (.plain ((plainCut_iff hfirst).2 ⟨rfl, heven⟩)),
            trim_trim first⟩
        · have hplain : ∀ t, ¬line.PlainCut t := fun t ht => heven ((plainCut_iff hfirst).1 ht).2
          simp only [heven, if_false, Bool.false_eq_true]
          cases hdouble : QuotedRuns.start.beforeComment? '"' line with
          | some before =>
            have hcut := (QuotedRuns.beforeComment?_eq_some_iff (by decide)).1 hdouble
            exact .inl ⟨before, .quoted hno (.double hplain hcut), trim_trimEnd before⟩
          | none =>
            have hnodouble : ∀ t, ¬RunCut '"' [] line t := by
              intro t ht
              rw [(QuotedRuns.beforeComment?_eq_some_iff (by decide)).2 ht] at hdouble
              cases hdouble
            cases hsingle : QuotedRuns.start.beforeComment? '\'' line with
            | some before =>
              have hcut := (QuotedRuns.beforeComment?_eq_some_iff (by decide)).1 hsingle
              exact .inl ⟨before, .quoted hno (.single hplain hnodouble hcut), trim_trimEnd before⟩
            | none =>
              refine .inr ⟨?_, trim_trimEnd line⟩
              rintro before (hcut | ⟨-, hcut | ⟨-, hcut⟩ | ⟨-, -, hcut⟩⟩)
              · exact hno hcut.hasBareComment
              · exact hplain before hcut
              · exact hnodouble before hcut
              · rw [(QuotedRuns.beforeComment?_eq_some_iff (by decide)).2 hcut] at hsingle
                cases hsingle

theorem RunCut.unique {quote : Char} {before' : Text} (hquote : quote ≠ ';')
    (h : RunCut quote [] line before) (h' : RunCut quote [] line before') : before = before' := by
  have heq := (QuotedRuns.beforeComment?_eq_some_iff hquote).2 h
  rw [(QuotedRuns.beforeComment?_eq_some_iff hquote).2 h'] at heq
  exact (Option.some.inj heq).symm

theorem QuotedCut.unique {before' : Text} (h : line.QuotedCut before)
    (h' : line.QuotedCut before') : before = before' := by
  cases h with
  | plain h =>
    cases h' with
    | plain h' =>
      obtain ⟨after, heq⟩ := h.exists_after
      have hfirst := splitFirst?_eq_some_iff.2 ⟨heq, h.first⟩
      exact ((plainCut_iff hfirst).1 h').1.symm
    | double hplain _ => exact absurd h (hplain before)
    | single hplain _ _ => exact absurd h (hplain before)
  | double hplain h =>
    cases h' with
    | plain h' => exact absurd h' (hplain before')
    | double _ h' => exact h.unique (by decide) h'
    | single _ hdouble _ => exact absurd h (hdouble before)
  | single hplain hdouble h =>
    cases h' with
    | plain h' => exact absurd h' (hplain before')
    | double _ h' => exact absurd h' (hdouble before')
    | single _ _ h' => exact h.unique (by decide) h'

/-- A line is cut in one place. -/
theorem Cut.unique {before' : Text} (h : line.Cut before) (h' : line.Cut before') :
    before = before' := by
  cases h with
  | bare h =>
    cases h' with
    | bare h' =>
      have heq := beforeBareComment?_eq_some_iff.2 h
      rw [beforeBareComment?_eq_some_iff.2 h'] at heq
      exact (Option.some.inj heq).symm
    | quoted hbare _ => exact absurd h.hasBareComment hbare
  | quoted hbare h =>
    cases h' with
    | bare h' => exact absurd h'.hasBareComment hbare
    | quoted _ h' => exact h.unique h'

theorem trim_stripComment_of_cut (h : line.Cut before) :
    line.stripComment.trim = before.trim := by
  rcases trim_stripComment_cases line with ⟨before', h', heq⟩ | ⟨hnone, -⟩
  · rw [h.unique h']
    exact heq
  · exact absurd h (hnone before)

end Text

end ScriptScan
