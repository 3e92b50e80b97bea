import ScriptScan.Proofs.Text.Comment
import ScriptScan.Proofs.Text.Literal

/-!
# What a comment is cut off from

The comment of a line begins at the first semicolon outside literals, and what stands before it is
code. Cutting a comment off counts quotes instead of following literals (`Text.Cut`), so the two
can part. Both are places of the line, so they are compared as places: what the line begins with is
kept if the line is not cut inside it (`Text.kept_iff`), and what stands behind a semicolon is gone
if the line is cut there or before (`Text.gone_iff`).

* `Text.code_kept_iff` — when all code is kept; in particular if each semicolon in a literal stands
  behind an odd number of quotes of each kind that it stands behind at all (`Text.code_kept_of_odd`).
* `Text.comment_gone_iff` — when nothing is left of the comment; in particular if all semicolons of
  the line have a quote behind them and the code is plain (`Text.comment_gone_of_plain`).
* `Text.trim_stripComment_of_plain` — a comment without quotes is cut off where it begins.
-/

namespace ScriptScan

namespace Text

variable {line front comment before pre : Text}

/-! ## Code -/

/-- What stands before the first semicolon outside literals; the whole line if there is none. -/
def code (line : Text) : Text :=
  ((Literal.outside.splitOutside? ';' line).map (·.1)).getD line

theorem code_of_split (h : Literal.outside.splitOutside? ';' line = some (front, comment)) :
    line.code = front := by
  rw [code, h]
  rfl

theorem code_cases (line : Text) :
    (∃ comment, line = line.code ++ ';' :: comment ∧ Literal.IsFirst ';' line.code) ∨
      line.code = line ∧
        ∀ pre post, line = pre ++ ';' :: post → pre.endsOutsideLiteral = false := by
  cases hsplit : Literal.outside.splitOutside? ';' line with
  | some found =>
    obtain ⟨before, after⟩ := found
    rw [code_of_split hsplit]
    exact .inl ⟨after, Literal.splitOutside?_eq_some_iff_isFirst.1 hsplit⟩
  | none =>
    refine .inr ⟨by rw [code, hsplit]; rfl, ?_⟩
    intro pre post heq
    have hnever := Literal.splitOutside?_eq_none_iff.1 hsplit
    exact beq_eq_false_iff_ne.2 (hnever pre post heq)

theorem code_begins (line : Text) : line.code <+: line := by
  rcases code_cases line with ⟨comment, heq, -⟩ | ⟨heq, -⟩
  · exact ⟨_, heq.symm⟩
  · exact ⟨[], (List.append_nil line.code).trans heq⟩

/-- A semicolon of the code stands inside a literal. -/
theorem inside_of_code (h : pre ++ [';'] <+: line.code) : pre.endsOutsideLiteral = false := by
  obtain ⟨post, heq⟩ := h
  rw [List.append_assoc, List.singleton_append] at heq
  rcases code_cases line with ⟨comment, -, hfirst⟩ | ⟨hline, hnone⟩
  · exact hfirst.none_before pre post heq.symm
  · exact hnone pre post (hline.symm.trans heq.symm)

/-! ## Places of a line -/

/-- Of two beginnings of a line one goes on with what the other ends before. -/
theorem begins_cases {a b rest : Text} (ha : line = a ++ ';' :: rest) (hb : b <+: line) :
    b <+: a ∨ a ++ [';'] <+: b := by
  have ha' : a ++ [';'] <+: line := ⟨rest, by rw [ha, List.append_assoc, List.singleton_append]⟩
  have haline : a <+: line := ⟨_, ha.symm⟩
  by_cases hlength : b.length ≤ a.length
  · exact .inl (List.prefix_of_prefix_length_le hb haline hlength)
  · refine .inr (List.prefix_of_prefix_length_le ha' hb ?_)
    rw [List.length_append, List.length_singleton]
    omega

/-- Trimming does not hide how far a beginning of the line reaches, compared with a cut. -/
theorem trim_prefix_cut_iff {a b rest : Text} (ha : line = a ++ ';' :: rest) (hb : b <+: line) :
    b.trim <+: a.trim ↔ b <+: a := by
  constructor
  · intro htrim
    rcases begins_cases ha hb with h | h
    · exact h
    · exact absurd htrim (not_trim_prefix_trim (by decide) h)
  · exact trim_prefix_trim

/-- What a line begins with is kept exactly if the line is not cut inside it. -/
theorem kept_iff {b : Text} (hb : b <+: line) :
    b.trim <+: line.stripComment.trim ↔ ∀ before, line.Cut before → b <+: before := by
  constructor
  · intro htrim before hcut
    obtain ⟨after, heq⟩ := hcut.exists_after
    rw [trim_stripComment_of_cut hcut] at htrim
    exact (trim_prefix_cut_iff heq hb).1 htrim
  · intro h
    rcases trim_stripComment_cases line with ⟨before, hcut, hline⟩ | ⟨-, hline⟩
    · rw [hline]
      exact trim_prefix_trim (h before hcut)
    · rw [hline]
      exact trim_prefix_trim hb

/-- What stands behind a semicolon is gone exactly if the line is cut there, or before. -/
theorem gone_iff (heq : line = front ++ ';' :: comment) :
    line.stripComment.trim <+: front.trim ↔ ∃ before, line.Cut before ∧ before <+: front := by
  constructor
  · intro htrim
    rcases trim_stripComment_cases line with ⟨before, hcut, hline⟩ | ⟨-, hline⟩
    · obtain ⟨after, hafter⟩ := hcut.exists_after
      rw [hline] at htrim
      exact ⟨before, hcut, (trim_prefix_cut_iff heq ⟨_, hafter.symm⟩).1 htrim⟩
    · -- a line that is not cut goes on with the semicolon
      rw [hline] at htrim
      exact absurd htrim (not_trim_prefix_trim (c := ';') (by decide) ⟨comment, by simp [heq]⟩)
  · rintro ⟨before, hcut, hbegins⟩
    rw [trim_stripComment_of_cut hcut]
    exact trim_prefix_trim hbegins

/-! ## When code is kept -/

/-- A bare comment begins behind all code. -/
theorem code_begins_of_bareCut (hclosed : line.code.endsOutsideLiteral = true)
    (h : line.BareCut before) : line.code <+: before := by
  obtain ⟨after, heq, hafter⟩ := h.exists_after
  rcases begins_cases heq (code_begins line) with hcode | hcode
  · exact hcode
  · -- the literal around the semicolon would not be closed
    have hinside := inside_of_code hcode
    obtain ⟨rest, hrest⟩ := hcode
    rw [List.append_assoc, List.singleton_append] at hrest
    have hbegins : rest <+: after := by
      have hline := code_begins line
      rw [← hrest, heq, List.prefix_append_right_inj, List.cons_prefix_cons] at hline
      exact hline.2
    have hplain : ∀ c ∈ ';' :: rest, isQuote c = false :=
      List.forall_mem_cons.2 ⟨by decide, fun c hc => hafter c (hbegins.subset hc)⟩
    rw [← hrest, endsOutsideLiteral_append hplain, hinside] at hclosed
    cases hclosed

/-- All code of a line whose literals are closed is kept exactly if some semicolon of the line has no
quote behind it, or no rule cuts inside the code. -/
theorem code_kept_iff (hclosed : line.code.endsOutsideLiteral = true) :
    line.code.trim <+: line.stripComment.trim ↔
      line.HasBareComment ∨ ∀ before, line.QuotedCut before → line.code <+: before := by
  rw [kept_iff (code_begins line)]
  constructor
  · intro h
    by_cases hbare : line.HasBareComment
    · exact .inl hbare
    · exact .inr fun before hcut => h before (.quoted hbare hcut)
  · intro h before hcut
    cases hcut with
    | bare hcut => exact code_begins_of_bareCut hclosed hcut
    | quoted hbare hcut =>
      rcases h with h | h
      · exact absurd h hbare
      · exact h before hcut

/-- A line with a semicolon in a literal, and with one that has no quote behind it. -/
theorem code_kept_iff_sample :
    ∃ line : Text, line = "$s = \"a;b\" ; it".toList ∧ line.code = "$s = \"a;b\" ".toList ∧
      line.code.endsOutsideLiteral = true ∧
      (line.code.trim <+: line.stripComment.trim ↔
        line.HasBareComment ∨ ∀ before, line.QuotedCut before → line.code <+: before) :=
  ⟨_, rfl, by decide, by decide, code_kept_iff (by decide)⟩

/-- Not all code is kept: quotes of the other kind in a literal are counted like any others. -/
theorem code_not_kept :
    ¬∀ line : Text, line.endsOutsideLiteral = true →
      line.code.trim <+: line.stripComment.trim := by
  intro h
  have hkept := h "$s = \"'a';b\"".toList (by decide)
  exact absurd hkept (by decide)

/-- Code is kept if each of its semicolons stands behind an odd number of quotes of each kind that
stands before it. -/
theorem code_kept_of_odd (hclosed : line.code.endsOutsideLiteral = true)
    (hodd : ∀ pre, pre ++ [';'] <+: line.code →
      ∀ q, isQuote q = true → q ∈ pre → pre.count q % 2 = 1) :
    line.code.trim <+: line.stripComment.trim := by
  rw [kept_iff (code_begins line)]
  intro before hcut
  obtain ⟨after, heq⟩ := hcut.exists_after
  rcases begins_cases heq (code_begins line) with hcode | hcode
  · exact hcode
  · -- no rule cuts at a semicolon of the code
    have hinside := inside_of_code hcode
    have heven : ∀ q, isQuote q = true → before.count q % 2 = 0 → q ∉ before := by
      intro q hq heven hmem
      have hone := hodd before hcode q hq hmem
      omega
    have hruns : ∀ q, isQuote q = true → ¬RunCut q [] line before := by
      rintro q hq ⟨-, hcount, hruns, -⟩
      rw [List.nil_append] at hcount hruns
      rcases hruns with rfl | hmem
      · cases hinside
      · exact heven q hq hcount hmem
    cases hcut with
    | bare hcut => exact code_begins_of_bareCut hclosed hcut
    | quoted hbare hcut =>
      exfalso
      cases hcut with
      | double _ h => exact hruns '"' (by decide) h
      | single _ _ h => exact hruns '\'' (by decide) h
      | plain h =>
        have hplain : ∀ c ∈ before, isQuote c = false := by
          intro c hc
          rw [Bool.eq_false_iff]
          intro hquote
          rcases Bool.or_eq_true_iff.1 hquote with hq | hq
          · rw [beq_iff_eq.1 hq] at hc
            exact heven '"' (by decide) h.even_double hc
          · rw [beq_iff_eq.1 hq] at hc
            exact heven '\'' (by decide) h.even_single hc
        have hout := endsOutsideLiteral_append (t := []) hplain
        rw [List.nil_append, hinside] at hout
        cases hout

/-! ## When the comment is gone -/

/-- A bare comment that begins in the code, or with the comment, leaves no quote to the comment. -/
theorem BareCut.plain_of_begins (h : line.BareCut before) (heq : line = front ++ ';' :: comment)
    (hbegins : before <+: front) : ∀ c ∈ comment, isQuote c = false := by
  obtain ⟨after, hafter, hplain⟩ := h.exists_after
  have hlength : comment.length ≤ after.length := by
    have hle := hbegins.length_le
    have hsame := congrArg List.length (heq.symm.trans hafter)
    simp only [List.length_append, List.length_cons] at hsame
    omega
  have hcomment : ';' :: comment <:+ line := ⟨front, heq.symm⟩
  have hrest : ';' :: after <:+ line := ⟨before, hafter.symm⟩
  have hsuffix := List.suffix_of_suffix_length_le hcomment hrest (Nat.succ_le_succ hlength)
  have hall : ∀ c ∈ ';' :: after, isQuote c = false :=
    List.forall_mem_cons.2 ⟨by decide, hplain⟩
  exact fun c hc => hall c (hsuffix.subset (List.mem_cons_of_mem _ hc))

/-- A comment without quotes is bare, so the first bare comment does not begin behind it. -/
theorem BareCut.begins_of_plain (h : line.BareCut before) (heq : line = front ++ ';' :: comment)
    (hplain : ∀ c ∈ comment, isQuote c = false) : before <+: front := by
  obtain ⟨after, hafter, -⟩ := h.exists_after
  rcases begins_cases heq ⟨_, hafter.symm⟩ with hbegins | ⟨post, hpost⟩
  · exact hbegins
  · rw [List.append_assoc, List.singleton_append] at hpost
    obtain ⟨q, hq, hquote⟩ := h.first front post hpost.symm
    rw [heq, ← hpost, List.append_assoc, List.append_cancel_left_eq, List.cons_append] at hafter
    have hmem : q ∈ comment := by
      rw [(List.cons.inj hafter).2]
      exact List.mem_append_left _ hq
    rw [hplain q hmem] at hquote
    cases hquote

/-- Nothing of a comment is left exactly if there is no quote in it, or if all semicolons of the line
have a quote behind them and some rule cuts where the comment begins, or before. -/
theorem comment_gone_iff (hsplit : Literal.outside.splitOutside? ';' line = some (front, comment)) :
    line.stripComment.trim <+: front.trim ↔
      (∀ c ∈ comment, isQuote c = false) ∨
        ¬line.HasBareComment ∧ ∃ before, line.QuotedCut before ∧ before <+: front := by
  obtain ⟨heq, -⟩ := Literal.splitOutside?_eq_some_iff_isFirst.1 hsplit
  rw [gone_iff heq]
  constructor
  · rintro ⟨before, hcut, hbegins⟩
    cases hcut with
    | bare hcut => exact .inl (hcut.plain_of_begins heq hbegins)
    | quoted hbare hcut => exact .inr ⟨hbare, before, hcut, hbegins⟩
  · rintro (hplain | ⟨hbare, before, hcut, hbegins⟩)
    · obtain ⟨before, hcut⟩ := exists_bareCut ⟨front, comment, heq, hplain⟩
      exact ⟨before, .bare hcut, hcut.begins_of_plain heq hplain⟩
    · exact ⟨before, .quoted hbare hcut, hbegins⟩

/-- A line with a quoted word in its comment. -/
theorem comment_gone_iff_sample :
    ∃ line front comment : Text, line = "f(\"a\") ; 'b'".toList ∧
      Literal.outside.splitOutside? ';' line = some (front, comment) ∧
      (line.stripComment.trim <+: front.trim ↔
        (∀ c ∈ comment, isQuote c = false) ∨
          ¬line.HasBareComment ∧ ∃ before, line.QuotedCut before ∧ before <+: front) :=
  ⟨_, "f(\"a\") ".toList, " 'b'".toList, rfl, by decide, comment_gone_iff (by decide)⟩

/-- Not all of a comment is gone: behind a quote in it, another semicolon is the one with no quote
behind it. -/
theorem comment_not_gone :
    ¬∀ line front comment : Text,
      Literal.outside.splitOutside? ';' line = some (front, comment) →
        line.stripComment.trim <+: front.trim := by
  intro h
  have hgone := h "$x = 1 ; don't ; really".toList "$x = 1 ".toList " don't ; really".toList
    (by decide)
  exact absurd hgone (by decide)

/-- A comment with quotes is gone if all semicolons of the line have a quote behind them, the code
has no semicolon and its quotes come in pairs, and no interpolated string opens in the line. -/
theorem comment_gone_of_plain
    (hsplit : Literal.outside.splitOutside? ';' line = some (front, comment))
    (hbare : ¬line.HasBareComment) (hfirst : ';' ∉ front)
    (hdouble : front.count '"' % 2 = 0) (hsingle : front.count '\'' % 2 = 0)
    (hplain : line.hasInterpolation = false) :
    line.stripComment.trim <+: front.trim := by
  obtain ⟨heq, -⟩ := Literal.splitOutside?_eq_some_iff_isFirst.1 hsplit
  have hcut : line.PlainCut front := ⟨⟨comment, heq⟩, hfirst, hdouble, hsingle, hplain⟩
  rw [gone_iff heq]
  exact ⟨front, .quoted hbare (.plain hcut), List.prefix_refl front⟩

/-- A line whose comment has no quote in it is cut where the comment begins. -/
theorem trim_stripComment_of_plain
    (hsplit : Literal.outside.splitOutside? ';' line = some (front, comment))
    (hplain : ∀ c ∈ comment, isQuote c = false) : line.stripComment.trim = front.trim := by
  obtain ⟨heq, hfirst⟩ := Literal.splitOutside?_eq_some_iff_isFirst.1 hsplit
  obtain ⟨before, hcut⟩ := exists_bareCut ⟨front, comment, heq, hplain⟩
  have hclosed : line.code.endsOutsideLiteral = true := by
    rw [code_of_split hsplit]
    exact hfirst.outside
  have hkept := code_begins_of_bareCut hclosed hcut
  rw [code_of_split hsplit] at hkept
  have hgone := hcut.begins_of_plain heq hplain
  rw [trim_stripComment_of_cut (.bare hcut), hgone.eq_of_length_le hkept.length_le]

end Text

end ScriptScan
