import ScriptScan.Proofs.Line.Continuation
import ScriptScan.Proofs.Line.Header

/-!
# Block forms of governed statements

A statement is a line that the reader takes as it stands. An if (`IfHead`) and the declaration of a
function (`FuncLine`) are statements, and so is the line on which one of them governs another
statement. The block form of such a line is the header, the block form of what is governed, and a
closing line; and the header alone stays as it is.
-/

namespace ScriptScan

namespace Text

variable {t u : Text}

/-! ## Statements -/

/-- Whether a line is read as it stands: it has no white space at its ends, no comment and no
continuation marker, and is no directive. -/
structure IsStatement (t : Text) : Prop where
  trimmed : t.trim = t
  ne_nil : t ≠ []
  no_comment : ';' ∉ t
  no_directive : t.head? ≠ some '#'
  complete : beforeContinuation? t = none

namespace IsStatement

theorem physical (h : t.IsStatement) : t.trimStart.stripComment = t := by
  rw [trimStart_of_trimmed h.trimmed, stripComment_eq_self h.trimmed h.no_comment]

theorem marker (h : t.IsStatement) : Marker.read? t = none := by
  unfold Marker.read?
  split
  · exact absurd rfl h.no_directive
  · rfl

theorem modernize (h : t.IsStatement) : modernize t = t := by
  unfold ScriptScan.modernize
  split
  · exact absurd rfl h.no_directive
  · rfl

theorem not_blank (h : t.IsStatement) : isBlankText (' ' :: t) = false := by
  have hne := isBlankText_of_trimmed h.trimmed h.ne_nil
  have hblank : isBlank ' ' = true := by decide
  simpa [isBlankText, hblank] using hne

/-- A statement that no reader cuts is in block form. -/
theorem expand_eq (h : t.IsStatement) (hif : t.splitOneLineIf? = none)
    (hfunc : t.splitOneLineFunc? = none) (strict : Bool) : expand strict t = .ok [t] := by
  have hne : t.trim ≠ [] := by
    rw [h.trimmed]
    exact h.ne_nil
  rw [← h.trimmed] at hif hfunc
  rw [expand_of_plain hne hif hfunc, h.trimmed]

/-- A statement with a space and another statement behind it. -/
theorem append (ht : t.IsStatement) (hu : u.IsStatement) : IsStatement (t ++ ' ' :: u) where
  trimmed := by
    have h := trim_append_append ht.trimmed ht.ne_nil hu.trimmed hu.ne_nil [' ']
    simpa using h
  ne_nil := by simp [ht.ne_nil]
  no_comment := by
    rw [List.mem_append, List.mem_cons]
    rintro (h | h | h)
    · exact ht.no_comment h
    · exact absurd h (by decide)
    · exact hu.no_comment h
  no_directive := by
    rw [List.head?_append_of_ne_nil t ht.ne_nil]
    exact ht.no_directive
  complete := beforeContinuation?_append hu.complete t

end IsStatement

/-! ## Keywords at the ends -/

theorem Spells.trimmed {w keyword : Text} (h : w.Spells keyword)
    (hkeyword : keyword.all startsName = true) : w.trim = w := by
  have hblank := h.not_blank hkeyword
  rw [trim_eq_self_iff]
  exact ⟨fun c hc => hblank c (List.mem_of_head? hc), fun c hc => hblank c (List.mem_of_getLast? hc)⟩

end Text

/-! ## If -/

/-- The head of an if: the words if and then, each in some letter case, and what is between them. -/
structure IfHead where
  ifWord : Text
  condition : Text
  thenWord : Text

namespace IfHead

variable {head : IfHead} {stmt : Text}

/-- The text before the word then. -/
def lead (head : IfHead) : Text :=
  head.ifWord ++ ' ' :: head.condition ++ [' ']

/-- The line of an if that governs the lines behind it. -/
def header (head : IfHead) : Text :=
  head.lead ++ head.thenWord

/-- The line of an if that governs a statement on the same line. -/
def oneLine (head : IfHead) (stmt : Text) : Text :=
  head.header ++ ' ' :: stmt

theorem getLast?_lead (head : IfHead) : head.lead.getLast? = some ' ' :=
  List.getLast?_concat

theorem endsInWord_lead (head : IfHead) : head.lead.endsInWord = false := by
  simp only [Text.endsInWord, getLast?_lead]
  decide

/-- Whether the word then is the first one outside of string literals. -/
structure WellFormed (head : IfHead) : Prop where
  if_spells : head.ifWord.Spells "if".toList
  then_spells : head.thenWord.Spells "then".toList
  no_comment : ';' ∉ head.condition
  outside : head.lead.endsOutsideLiteral = true
  first : ¬head.lead.HasWordOutside "then".toList

namespace WellFormed

theorem exists_cons (h : head.WellFormed) :
    ∃ c t, head.header = c :: t ∧ foldsTo 'i' c = true := by
  obtain ⟨c, t, hword, hc, -⟩ := Text.dropKeyword?_cons_eq_some h.if_spells
  refine ⟨c, t ++ ' ' :: head.condition ++ [' '] ++ head.thenWord, ?_, hc⟩
  simp [header, lead, hword]

theorem header_isStatement (h : head.WellFormed) : head.header.IsStatement where
  trimmed := by
    have hif := h.if_spells.trimmed (by decide)
    have hthen := h.then_spells.trimmed (by decide)
    have hall := Text.trim_append_append hif h.if_spells.ne_nil hthen h.then_spells.ne_nil
      (' ' :: head.condition ++ [' '])
    simpa [header, lead] using hall
  ne_nil := by
    obtain ⟨c, t, hheader, -⟩ := h.exists_cons
    rw [hheader]
    exact List.cons_ne_nil c t
  no_comment := by
    have hif : ';' ∉ head.ifWord := h.if_spells.not_mem (by decide)
    have hthen : ';' ∉ head.thenWord := h.then_spells.not_mem (by decide)
    simp [header, lead, hif, hthen, h.no_comment]
  no_directive := by
    obtain ⟨c, t, hheader, hc⟩ := h.exists_cons
    rw [hheader, List.head?_cons]
    rintro heq
    rw [Option.some.inj heq] at hc
    exact absurd hc (by decide)
  complete := by
    refine Text.beforeContinuation?_of_last ?_
    intro hlast
    have hmem : '_' ∈ head.thenWord := by
      rw [header, List.getLast?_append_of_ne_nil _ h.then_spells.ne_nil] at hlast
      exact List.mem_of_getLast? hlast
    exact h.then_spells.not_mem (by decide) hmem

/-- The head of an if does not begin like a function. -/
theorem splitOneLineFunc?_eq_none (h : head.WellFormed) (rest : Text) :
    Text.splitOneLineFunc? (head.header ++ rest) = none := by
  obtain ⟨c, t, hheader, hc⟩ := h.exists_cons
  rw [hheader, List.cons_append]
  exact Text.splitOneLineFunc?_of_if hc (t ++ rest)

/-- Up to the word then nothing is cut. -/
theorem splitAtThen?_eq (h : head.WellFormed) (rest : Text) :
    Text.splitAtThen? [] (head.lead ++ rest) = Text.splitAtThen? head.lead rest := by
  have hspace : ∀ c, head.lead.getLast? = some c → c = ' ' := by
    intro c hc
    rw [getLast?_lead] at hc
    exact (Option.some.inj hc).symm
  have hpass := Text.splitAtThen?_append (u := []) (v := head.lead) h.first hspace rest
  simpa using hpass

/-- The head of an if alone is in block form. -/
theorem expand_header (h : head.WellFormed) (strict : Bool) :
    expand strict head.header = .ok [head.header] := by
  have hif : head.header.splitOneLineIf? = none := by
    unfold Text.splitOneLineIf?
    split
    · -- only the last word could be cut off
      have hlength : head.thenWord.length = 4 := h.then_spells.length_eq
      rw [header, h.splitAtThen?_eq]
      exact Text.splitAtThen?_of_length_le (by omega)
    · rfl
  have hfunc : head.header.splitOneLineFunc? = none := by
    simpa using h.splitOneLineFunc?_eq_none []
  exact h.header_isStatement.expand_eq hif hfunc strict

/-- An if with its statement on the same line is cut between the two. -/
theorem splitOneLineIf?_oneLine (h : head.WellFormed) (hstmt : stmt.IsStatement) :
    (head.oneLine stmt).splitOneLineIf? = some (head.header, stmt) := by
  have hblank : isBlank ' ' = true := by decide
  have hif : (head.oneLine stmt).dropWholeWord? "if".toList =
      some (' ' :: (head.condition ++ ' ' :: (head.thenWord ++ ' ' :: stmt))) := by
    refine Text.dropWholeWord?_eq_some_iff.2 ⟨?_, Text.endsWord_space _⟩
    have hdrop := h.if_spells.dropKeyword?_append
      (' ' :: (head.condition ++ ' ' :: (head.thenWord ++ ' ' :: stmt)))
    simpa [oneLine, header, lead] using hdrop
  -- the reader comes to the word then without a cut, and cuts there
  have hread : Text.readThen? (head.thenWord ++ ' ' :: stmt) =
      some (head.thenWord, ' ' :: stmt) :=
    Text.readThen?_eq_some_iff.2 ⟨h.then_spells, rfl, Text.endsWord_space _⟩
  have hcut := Text.splitAtThen?_of_cut (endsInWord_lead head) hread hstmt.not_blank h.outside
  rw [Text.splitOneLineIf?, hif]
  simp only [oneLine, header, List.append_assoc]
  rw [h.splitAtThen?_eq, hcut, Text.trim_cons_blank hblank hstmt.trimmed]
  rw [← header, h.header_isStatement.trimmed]

theorem oneLine_isStatement (h : head.WellFormed) (hstmt : stmt.IsStatement) :
    (head.oneLine stmt).IsStatement :=
  h.header_isStatement.append hstmt

/-- The block form of an if with its statement on the same line. -/
theorem expand_oneLine (h : head.WellFormed) (hstmt : stmt.IsStatement) (strict : Bool) :
    expand strict (head.oneLine stmt) =
      (expand strict stmt).map fun inner => head.header :: inner ++ ["endif".toList] := by
  have hcut := h.splitOneLineIf?_oneLine hstmt
  rw [← (h.oneLine_isStatement hstmt).trimmed] at hcut
  exact expand_of_if hcut

end WellFormed

end IfHead

/-! ## Functions -/

/-- What the rule for functions reads up to the opening parenthesis; the rest of the line ends with
the closing one. -/
theorem LineForm.readFunc?_args {isVolatile : Bool} {line : Text} {form : LineForm}
    (h : readFunc? isVolatile line = some form) :
    ∃ args, line.trimStart.dropFuncName? = some args ∧ args.getLast? = some ')' := by
  simp only [readFunc?, bind, Option.bind_eq_some_iff] at h
  obtain ⟨a, hword, b, hblanks, ⟨name, c⟩, hname, args, hparen, hform⟩ := h
  refine ⟨args, ?_, ?_⟩
  · simp only [Text.dropFuncName?, bind, Option.bind_eq_some_iff]
    exact ⟨a, hword, b, hblanks, ⟨name, c⟩, hname, hparen⟩
  · split at hform
    · rename_i hend
      exact hend.1
    · cases hform

/-- A line that the rule for functions reads ends with the closing parenthesis. -/
theorem LineForm.getLast?_of_readFuncHeader? {line : Text} {form : LineForm}
    (h : readFuncHeader? line = some form) : line.getLast? = some ')' := by
  have hread : ∃ isVolatile rest, rest <:+ line ∧ readFunc? isVolatile rest = some form := by
    unfold readFuncHeader? at h
    split at h
    · rename_i rest hvolatile
      obtain ⟨w, -, rfl⟩ := Text.exists_spells_of_dropKeyword? hvolatile
      exact ⟨true, rest, List.suffix_append w rest, h⟩
    · exact ⟨false, line, List.suffix_rfl, h⟩
  obtain ⟨isVolatile, rest, hrest, hfunc⟩ := hread
  obtain ⟨args, hname, hlast⟩ := readFunc?_args hfunc
  have hargs : args <:+ line :=
    ((Text.dropFuncName?_suffix hname).trans (List.dropWhile_suffix isBlank)).trans hrest
  have hne : args ≠ [] := by
    rintro rfl
    cases hlast
  rw [Text.getLast?_of_suffix hargs hne]
  exact hlast

namespace Text

variable {t stmt : Text}

/-- Whether a line declares a function: the rule for functions reads it, it has neither white space
at its ends nor a comment, and no closing parenthesis in it has an arrow behind it. -/
structure IsFuncLine (t : Text) : Prop where
  declares : (LineRule.func.read? t).isSome = true
  trimmed : t.trim = t
  no_comment : ';' ∉ t
  no_arrow : ¬t.HasArrow

/-- Whether there is white space behind the word volatile, if a line begins with it. -/
def IsSpaced (t : Text) : Prop :=
  ∀ rest ∈ t.dropKeyword? "volatile".toList, rest.dropBlanks?.isSome = true

instance (t : Text) : Decidable t.IsSpaced :=
  inferInstanceAs (Decidable (∀ rest ∈ t.dropKeyword? "volatile".toList, _))

/-- The line of a function with its body behind an arrow. -/
def withBody (t stmt : Text) : Text :=
  t ++ " -> ".toList ++ stmt

namespace IsFuncLine

/-- What the line begins with, and that it ends with the closing parenthesis. -/
theorem cases (h : t.IsFuncLine) :
    (∃ rest args, t.dropKeyword? "volatile".toList = some rest ∧
        rest.trimStart.dropFuncName? = some args ∧ args.getLast? = some ')') ∨
      (t.dropKeyword? "volatile".toList = none ∧
        ∃ args, t.dropFuncName? = some args ∧ args.getLast? = some ')') := by
  obtain ⟨form, hform⟩ := Option.isSome_iff_exists.1 h.declares
  simp only [LineRule.read?, LineForm.readFuncHeader?] at hform
  cases hvolatile : t.dropKeyword? "volatile".toList with
  | some rest =>
    rw [hvolatile] at hform
    obtain ⟨args, hname, hend⟩ := LineForm.readFunc?_args hform
    exact .inl ⟨rest, args, rfl, hname, hend⟩
  | none =>
    rw [hvolatile] at hform
    obtain ⟨args, hname, hend⟩ := LineForm.readFunc?_args hform
    rw [trimStart_of_trimmed h.trimmed] at hname
    exact .inr ⟨rfl, args, hname, hend⟩

theorem getLast?_eq (h : t.IsFuncLine) : t.getLast? = some ')' := by
  obtain ⟨form, hform⟩ := Option.isSome_iff_exists.1 h.declares
  exact LineForm.getLast?_of_readFuncHeader? hform

/-- The line begins with the letter f or the letter v. -/
theorem exists_cons (h : t.IsFuncLine) :
    ∃ c t', t = c :: t' ∧ foldsTo 'i' c = false ∧ c ≠ '#' := by
  have hother : ∀ {k c : Char}, k ≠ 's' ∧ k ≠ 'k' → k ≠ 'i' → k ≠ '#' → foldsTo k c = true →
      foldsTo 'i' c = false ∧ c ≠ '#' := by
    intro k c hk hi hhash hc
    refine ⟨foldsTo_of_ne hk (by decide) hi hc, ?_⟩
    rintro rfl
    exact hhash ((foldsTo_iff hk).1 hc).symm
  rcases h.cases with ⟨rest, args, hvolatile, -⟩ | ⟨-, args, hname, -⟩
  · obtain ⟨c, t', ht, hc, -⟩ := dropKeyword?_cons_eq_some hvolatile
    exact ⟨c, t', ht, hother (by decide) (by decide) (by decide) hc⟩
  · simp only [dropFuncName?, bind, Option.bind_eq_some_iff] at hname
    obtain ⟨a, hfunc, -⟩ := hname
    obtain ⟨c, t', ht, hc, -⟩ := dropKeyword?_cons_eq_some hfunc
    exact ⟨c, t', ht, hother (by decide) (by decide) (by decide) hc⟩

theorem isStatement (h : t.IsFuncLine) : t.IsStatement where
  trimmed := h.trimmed
  ne_nil := by
    obtain ⟨c, t', rfl, -⟩ := h.exists_cons
    exact List.cons_ne_nil c t'
  no_comment := h.no_comment
  no_directive := by
    obtain ⟨c, t', rfl, -, hc⟩ := h.exists_cons
    simpa using hc
  complete := by
    refine beforeContinuation?_of_last ?_
    rw [h.getLast?_eq]
    decide

/-- Where a function begins, no if begins. -/
theorem splitOneLineIf?_eq_none (h : t.IsFuncLine) (rest : Text) :
    splitOneLineIf? (t ++ rest) = none := by
  obtain ⟨c, t', rfl, hc, -⟩ := h.exists_cons
  have hif : dropKeyword? (c :: (t' ++ rest)) "if".toList = none := dropKeyword?_of_not_foldsTo hc
  simp only [List.cons_append, splitOneLineIf?, dropWholeWord?, hif]

/-- The declaration of a function alone is in block form. -/
theorem expand_self (h : t.IsFuncLine) (strict : Bool) : expand strict t = .ok [t] := by
  have hif : t.splitOneLineIf? = none := by
    simpa using h.splitOneLineIf?_eq_none []
  have hfunc : t.splitOneLineFunc? = none := by
    unfold splitOneLineFunc?
    split
    · rename_i rest hlead
      refine splitAtArrow?_eq_none ?_
      rw [List.suffix_iff_eq_append.1 (dropFuncLead?_suffix hlead)]
      exact h.no_arrow
    · rfl
  exact h.isStatement.expand_eq hif hfunc strict

/-- What the block form reads at the beginning of the line. -/
theorem dropFuncLead?_eq (h : t.IsFuncLine) (hspaced : t.IsSpaced) :
    ∃ args, t.dropFuncLead? = some args ∧ args.getLast? = some ')' := by
  rcases h.cases with ⟨rest, args, hvolatile, hname, hend⟩ | ⟨hvolatile, args, hname, hend⟩
  · obtain ⟨b, hb⟩ := Option.isSome_iff_exists.1 (hspaced rest hvolatile)
    refine ⟨args, ?_, hend⟩
    rw [← dropBlanks?_eq_some hb] at hname
    simp only [dropFuncLead?, hvolatile, hb, bind, Option.bind_some, hname]
  · refine ⟨args, ?_, hend⟩
    simp only [dropFuncLead?, hvolatile, hname]

theorem readArrow?_eq (hstmt : stmt.IsStatement) :
    readArrow? (" -> ".toList ++ stmt) = some stmt := by
  have hblank : isBlank ' ' = true := by decide
  have hstart : trimStart (" -> ".toList ++ stmt) = '-' :: '>' :: ' ' :: stmt := rfl
  have hbody : trimStart (' ' :: stmt) = stmt := by
    rw [trimStart, List.dropWhile_cons_of_pos hblank]
    exact trimStart_of_trimmed hstmt.trimmed
  simp only [readArrow?, hstart, hstmt.not_blank, hbody, Bool.false_eq_true, if_false]

/-- A function with its body behind an arrow is cut between the two. -/
theorem splitOneLineFunc?_withBody (h : t.IsFuncLine) (hspaced : t.IsSpaced)
    (hstmt : stmt.IsStatement) : (t.withBody stmt).splitOneLineFunc? = some (t, stmt) := by
  obtain ⟨args, hlead, hend⟩ := h.dropFuncLead?_eq hspaced
  obtain ⟨before, hbefore⟩ := dropFuncLead?_suffix hlead
  have hlead' := dropFuncLead?_append hlead (" -> ".toList ++ stmt)
  -- what is read before the parameters is what stands before them in the declaration
  have htake : (t ++ (" -> ".toList ++ stmt)).take ((t ++ (" -> ".toList ++ stmt)).length -
      (args ++ (" -> ".toList ++ stmt)).length) = before := by
    have hall := List.suffix_iff_eq_append.1 (dropFuncLead?_suffix hlead')
    rw [← List.append_assoc] at hall
    have hall' := List.append_cancel_right hall
    rw [← hbefore] at hall' ⊢
    exact List.append_cancel_right hall'
  have harrow : ¬HasArrow (before ++ args) := by
    rw [hbefore]
    exact h.no_arrow
  have hcut := splitAtArrow?_append harrow hend (readArrow?_eq hstmt)
  rw [withBody, List.append_assoc]
  simp only [splitOneLineFunc?, hlead']
  rw [htake, hcut, hbefore]

theorem withBody_isStatement (h : t.IsFuncLine) (hstmt : stmt.IsStatement) :
    (t.withBody stmt).IsStatement := by
  have harrow : IsStatement "->".toList :=
    ⟨by decide, by decide, by decide, by decide, by decide⟩
  have hall := (h.isStatement.append harrow).append hstmt
  simpa [withBody] using hall

/-- The block form of a function with its body behind an arrow. -/
theorem expand_withBody (h : t.IsFuncLine) (hspaced : t.IsSpaced) (hstmt : stmt.IsStatement) :
    expand false (t.withBody stmt) =
      (expand false stmt).map fun inner => t :: inner ++ ["endfunc".toList] := by
  have htrimmed := (h.withBody_isStatement hstmt).trimmed
  have hif : (t.withBody stmt).splitOneLineIf? = none := by
    rw [withBody, List.append_assoc]
    exact h.splitOneLineIf?_eq_none _
  have hfunc := h.splitOneLineFunc?_withBody hspaced hstmt
  rw [← htrimmed] at hif hfunc
  rw [expand_of_func hif hfunc, h.trimmed]
  rfl

end IsFuncLine

end Text

end ScriptScan
