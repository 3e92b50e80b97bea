import ScriptScan.Proofs.Source.Exchange

/-!
# The header of an if on its own

A source of one line is read as the block form of that line (`LogicalSource.read_line`). The header
of an if is in block form already: it ends with the word then, and there is no text behind it that
could be a statement. What may still cut it is the word then in its condition, for a word begins and
ends where word characters do, and it does not matter what stands before it.

* `Text.IsIfHeader` — the lines in question.
* `Text.IsIfHeader.splitOneLineIf?_eq_none_iff` — such a line is cut exactly if its condition has the
  word outside literals.
* `LogicalSource.read_ifHeader_iff` — so exactly then it is not read as it stands.
-/

namespace ScriptScan

/-! ## A line on its own -/

/-- A source of one line, which is a statement but for white space at its ends and a comment, is read
as the block form of the statement. -/
theorem LogicalSource.read_line {m : SourceMode} {line t : Text} (hfeed : '\n' ∉ line)
    (h : t.IsStatement) (hline : line.trimStart.stripComment = t) :
    read m line = match expand m.strict t with
      | .ok texts => .ok ⟨texts.map (⟨·, .line m.file 1⟩), 1⟩
      | .error cause => .error ⟨cause, .line m.file 1⟩ := by
  have hne : line ≠ [] := by
    rintro rfl
    exact h.ne_nil hline.symm
  rw [read_eq, Text.lines_eq_singleton hfeed hne, SourceMode.run_cons,
    SourceMode.reading_statement h hline]
  cases expand m.strict t with
  | error cause => rfl
  | ok texts => simp [Reading.place, Except.map, ReaderState.spanAt]

/-! ## The header of an if -/

namespace Text

variable {line lead thenWord u v : Text}

/-- Whether a line is the header of an if: it has no comment, and without the white space at its ends
it begins with the word if and ends with the word then. The word then stands behind `lead`. -/
structure IsIfHeader (line lead thenWord : Text) : Prop where
  one_line : '\n' ∉ line
  no_comment : ';' ∉ line
  begins : (line.trim.dropWholeWord? "if".toList).isSome = true
  trim_eq : line.trim = lead ++ thenWord
  then_spells : thenWord.Spells "then".toList
  boundary : lead.endsInWord = false

namespace IsIfHeader

theorem exists_cons (h : line.IsIfHeader lead thenWord) :
    ∃ c t, line.trim = c :: t ∧ foldsTo 'i' c = true := by
  obtain ⟨rest, hrest⟩ := Option.isSome_iff_exists.1 h.begins
  obtain ⟨c, t, ht, hc, -⟩ := dropKeyword?_cons_eq_some (dropWholeWord?_eq_some_iff.1 hrest).1
  exact ⟨c, t, ht, hc⟩

theorem isStatement (h : line.IsIfHeader lead thenWord) : line.trim.IsStatement where
  trimmed := trim_trim line
  ne_nil := by
    obtain ⟨c, t, ht, -⟩ := h.exists_cons
    rw [ht]
    exact List.cons_ne_nil c t
  no_comment := by
    intro hmem
    exact h.no_comment ((trim_sublist line).subset hmem)
  no_directive := by
    obtain ⟨c, t, ht, hc⟩ := h.exists_cons
    rw [ht, List.head?_cons]
    rintro heq
    rw [Option.some.inj heq] at hc
    exact absurd hc (by decide)
  complete := by
    refine beforeContinuation?_of_last ?_
    intro hlast
    rw [h.trim_eq, List.getLast?_append_of_ne_nil _ h.then_spells.ne_nil] at hlast
    exact h.then_spells.not_mem (by decide) (List.mem_of_getLast? hlast)

theorem then_not_blank (h : line.IsIfHeader lead thenWord) : isBlankText thenWord = false :=
  isBlankText_of_trimmed (h.then_spells.trimmed (by decide)) h.then_spells.ne_nil

theorem splitOneLineFunc?_eq_none (h : line.IsIfHeader lead thenWord) :
    splitOneLineFunc? line.trim = none := by
  obtain ⟨c, t, ht, hc⟩ := h.exists_cons
  rw [ht]
  exact splitOneLineFunc?_of_if hc t

/-- The word then in the condition is also one in the line, with text behind it. -/
theorem wordBetween_append (h : line.IsIfHeader lead thenWord) (heq : lead = u ++ v)
    (hword : WordBetween "then".toList u v) :
    WordBetween "then".toList u (v ++ thenWord) ∧
      isBlankText ((v ++ thenWord).drop 4) = false := by
  obtain ⟨hspells, hv, hends⟩ := readThen?_eq_some_iff.1 (readThen?_of_wordBetween hword)
  have hlength : (v.take 4).length = 4 := hspells.length_eq
  -- the condition does not end with the word, so something else stands between the two words
  have hrest : v.drop 4 ≠ [] := by
    intro hnil
    rw [hnil, List.append_nil] at hv
    have hboundary := h.boundary
    have hletters := hspells.forall_isWord (by decide)
    rw [heq, hv, endsInWord_append hspells.ne_nil hletters] at hboundary
    cases hboundary
  have hends' : endsWord (v.drop 4 ++ thenWord) = true := by
    obtain ⟨c, r, hcons⟩ := List.exists_cons_of_ne_nil hrest
    rw [hcons] at hends ⊢
    exact hends
  have hdrop : (v ++ thenWord).drop 4 = v.drop 4 ++ thenWord := by
    rw [List.drop_append_of_le_length]
    rw [List.length_take] at hlength
    omega
  have hwhole : dropWholeWord? (v ++ thenWord) "then".toList = some (v.drop 4 ++ thenWord) := by
    refine dropWholeWord?_eq_some_iff.2 ⟨?_, hends'⟩
    have hread := hspells.dropKeyword?_append (v.drop 4 ++ thenWord)
    rwa [← List.append_assoc, ← hv] at hread
  refine ⟨⟨hword.1, hword.2.1, by rw [hwhole]; rfl⟩, ?_⟩
  rw [hdrop, isBlankText, List.all_append, Bool.and_eq_false_iff]
  exact .inr h.then_not_blank

/-- A word then in the line with text behind it is one in the condition. -/
theorem hasWordOutside_of_append (h : line.IsIfHeader lead thenWord) (heq : line.trim = u ++ v)
    (hword : WordBetween "then".toList u v) (hrest : isBlankText (v.drop 4) = false) :
    lead.HasWordOutside "then".toList := by
  obtain ⟨hspells, hv, hends⟩ := readThen?_eq_some_iff.1 (readThen?_of_wordBetween hword)
  generalize v.take 4 = word at hspells hv
  generalize v.drop 4 = rest at hrest hv hends
  have hthen : thenWord.length = 4 := h.then_spells.length_eq
  have hlength : word.length = 4 := hspells.length_eq
  have hne : rest.length ≠ 0 := by
    intro hnil
    rw [List.length_eq_zero_iff.1 hnil] at hrest
    cases hrest
  have hsum := congrArg List.length hv
  rw [List.length_append] at hsum
  rw [h.trim_eq] at heq
  rcases List.append_eq_append_iff.1 heq with ⟨part, -, hpart⟩ | ⟨part, hlead, hpart⟩
  · -- there is no room for the text behind the word
    have hroom := congrArg List.length hpart
    rw [List.length_append] at hroom
    omega
  · refine ⟨u, part, hlead, hword.1, hword.2.1, ?_⟩
    rcases List.append_eq_append_iff.1 (hpart.symm.trans hv) with
      ⟨more, hmore, hbehind⟩ | ⟨more, hmore, hbehind⟩
    · -- the condition would end within the word
      exfalso
      have hpartne : part ≠ [] := by
        rintro rfl
        rw [hpart, List.nil_append] at hsum
        omega
      have hletters : ∀ c ∈ part, isWord c = true := by
        intro c hc
        refine hspells.forall_isWord (by decide) c ?_
        rw [hmore]
        exact List.mem_append_left _ hc
      have hboundary := h.boundary
      rw [hlead, endsInWord_append hpartne hletters] at hboundary
      cases hboundary
    · have hends' : endsWord more = true := by
        cases more with
        | nil => rfl
        | cons c more =>
          rw [hbehind] at hends
          exact hends
      have hwhole : dropWholeWord? part "then".toList = some more := by
        rw [hmore]
        exact dropWholeWord?_eq_some_iff.2 ⟨hspells.dropKeyword?_append more, hends'⟩
      rw [hwhole]
      rfl

/-- Such a line is cut exactly if its condition has the word then outside literals. -/
theorem splitOneLineIf?_eq_none_iff (h : line.IsIfHeader lead thenWord) :
    splitOneLineIf? line.trim = none ↔ ¬lead.HasWordOutside "then".toList := by
  obtain ⟨rest, hrest⟩ := Option.isSome_iff_exists.1 h.begins
  simp only [splitOneLineIf?, hrest]
  rw [splitAtThen?_eq_none_iff]
  constructor
  · rintro hnone ⟨u, v, rfl, hword⟩
    obtain ⟨hword', hblank⟩ := h.wordBetween_append rfl hword
    rw [hnone u (v ++ thenWord) (by rw [h.trim_eq, List.append_assoc]) hword'] at hblank
    cases hblank
  · intro hnone u v heq hword
    by_contra hrest
    exact hnone (h.hasWordOutside_of_append heq hword (by simpa using hrest))

end IsIfHeader

end Text

namespace LogicalSource

variable {m : SourceMode} {line lead thenWord : Text}

/-- The header of an if is read on its own as it stands, without the white space at its ends, exactly
if no word then stands in it outside literals before its last one. -/
theorem read_ifHeader_iff (h : line.IsIfHeader lead thenWord) :
    read m line = .ok ⟨[⟨line.trim, .line m.file 1⟩], 1⟩ ↔
      ¬lead.HasWordOutside "then".toList := by
  rw [← h.splitOneLineIf?_eq_none_iff,
    read_line h.one_line h.isStatement (Text.stripComment_trimStart h.no_comment)]
  have htrim := Text.trim_trim line
  constructor
  · intro hread
    cases hsplit : Text.splitOneLineIf? line.trim with
    | none => rfl
    | some cut =>
      exfalso
      obtain ⟨header, stmt⟩ := cut
      rw [← htrim] at hsplit
      rw [expand_of_if hsplit] at hread
      -- the block form would end with the closing line
      cases hinner : expand m.strict stmt with
      | error cause =>
        rw [hinner] at hread
        cases hread
      | ok inner =>
        rw [hinner] at hread
        simp [Except.map] at hread
  · intro hnone
    rw [h.isStatement.expand_eq hnone h.splitOneLineFunc?_eq_none m.strict]
    rfl

/-- A header with the word then in a literal, and as a part of a longer word. -/
theorem read_ifHeader_iff_sample :
    ∃ line lead thenWord : Text, line = "\tIf $athen = \"then\" Then ".toList ∧
      line.IsIfHeader lead thenWord ∧ ¬lead.HasWordOutside "then".toList ∧
      (read ⟨"t.au3".toList, true⟩ line = .ok ⟨[⟨line.trim, .line "t.au3".toList 1⟩], 1⟩ ↔
        ¬lead.HasWordOutside "then".toList) := by
  have h : Text.IsIfHeader "\tIf $athen = \"then\" Then ".toList "If $athen = \"then\" ".toList
      "Then".toList :=
    ⟨by decide, by decide, by decide, by decide, by decide, by decide⟩
  exact ⟨_, _, _, rfl, h, by decide, read_ifHeader_iff h⟩

/-- A header is not always read as it stands if a word then in its condition is only ever a part of a
variable: the sigil of a variable begins a word as well as a space does. -/
theorem read_ifHeader_sigil :
    ¬∀ (m : SourceMode) (line lead thenWord : Text), line.IsIfHeader lead thenWord →
      (¬lead.CutsInto fun u v => Text.WordBetween "then".toList u v ∧ u.getLast? ≠ some '$') →
      read m line = .ok ⟨[⟨line.trim, .line m.file 1⟩], 1⟩ := by
  intro h
  have hheader : Text.IsIfHeader "if $then = 1 then".toList "if $then = 1 ".toList "then".toList :=
    ⟨by decide, by decide, by decide, by decide, by decide, by decide⟩
  have hread := h ⟨"t.au3".toList, false⟩ _ _ _ hheader (by decide)
  exact absurd hread (by decide +kernel)

end LogicalSource

end ScriptScan
