import ScriptScan.Proofs.Line.Header
import ScriptScan.Proofs.Line.Rule

/-!
# Nested blocks

The block form of a line is a line that is left as it stands, inside of the blocks that the line
opens: first the opening lines from the outside to the inside, then that line, then the closing
lines from the inside to the outside. None of these lines is cut again.

* `BlockKind` — an if or a function, with the lines that open it and the one that closes it.
* `Text.IsSettled` — a line that is its own block form.
* `Block.Nests` — the shape of a block form; `isBlockForm_of_expand` is the conclusion.
-/

namespace ScriptScan

/-! ## Blocks -/

/-- The statements that may govern another one on the same line. -/
inductive BlockKind where
  | conditional
  | func
deriving DecidableEq, Repr

namespace BlockKind

/-- The line that closes a block. -/
def closing : BlockKind → Text
  | conditional => "endif".toList
  | func => "endfunc".toList

/-- Whether a line opens a block. An if begins with the word if and ends with the word then; a
function begins like a declaration, up to the opening parenthesis, and ends with the closing one. -/
def Opens : BlockKind → Text → Prop
  | conditional, t =>
    (t.dropWholeWord? "if".toList).isSome = true ∧
      ∃ lead word, t = lead ++ word ∧ word.Spells "then".toList ∧ lead.endsInWord = false
  | func, t => t.dropFuncLead?.isSome = true ∧ t.getLast? = some ')'

end BlockKind

/-- A block, and the line that opens it. -/
structure Block where
  kind : BlockKind
  opening : Text
deriving DecidableEq, Repr

/-- The lines of some blocks, the outer ones first, around a line. -/
def Block.around (blocks : List Block) (inner : Text) : List Text :=
  blocks.map (·.opening) ++ inner :: blocks.reverse.map (·.kind.closing)

theorem Block.around_cons (b : Block) (blocks : List Block) (inner : Text) :
    around (b :: blocks) inner = b.opening :: around blocks inner ++ [b.kind.closing] := by
  simp [around]

/-! ## Lines that are settled -/

/-- Whether a line is its own block form, in either mode. -/
structure Text.IsSettled (t : Text) : Prop where
  trimmed : t.trim = t
  ne_nil : t ≠ []
  expand_eq : ∀ strict, expand strict t = .ok [t]

theorem Text.isSettled_of_uncut {t : Text} (htrim : t.trim = t) (hne : t ≠ [])
    (hif : t.splitOneLineIf? = none) (hfunc : t.splitOneLineFunc? = none) : t.IsSettled := by
  refine ⟨htrim, hne, ?_⟩
  intro strict
  rw [← htrim] at hne hif hfunc
  rw [expand_of_plain hne hif hfunc, htrim]

theorem BlockKind.isSettled_closing (k : BlockKind) : k.closing.IsSettled := by
  cases k with
  | conditional => exact Text.isSettled_of_uncut (by decide) (by decide) (by decide) (by decide)
  | func => exact Text.isSettled_of_uncut (by decide) (by decide) (by decide) (by decide)

/-! ## What a line is cut into -/

namespace Text

variable {t u word rest header stmt decl body : Text}

/-- The word if is not cut in two by the word then. -/
theorem dropWholeWord?_if_of_cut
    (h : (dropWholeWord? (u ++ (word ++ rest)) "if".toList).isSome = true)
    (hword : word.Spells "then".toList) (hu : u.endsInWord = false) :
    (dropWholeWord? (u ++ word) "if".toList).isSome = true := by
  rcases Option.isSome_iff_exists.1 h with ⟨behind, hbehind⟩
  rcases dropWholeWord?_eq_some_iff.1 hbehind with ⟨hdrop, hends⟩
  rcases exists_spells_of_dropKeyword? hdrop with ⟨w, hw, heq⟩
  have hchars : ∀ c ∈ w, isWord c = true := hw.forall_isWord (by decide)
  rcases List.append_eq_append_iff.1 heq with ⟨tail, hlong, hrest⟩ | ⟨tail, rfl, hrest⟩
  · -- all before the word then would be a part of the word if
    have hnil : u = [] := by
      by_contra hne
      have hinside : u.endsInWord = true := by
        refine endsInWord_append (v := u) hne ?_ []
        intro c hc
        exact hchars c (hlong ▸ List.mem_append_left tail hc)
      rw [hu] at hinside
      cases hinside
    subst hnil
    rw [List.nil_append] at hlong
    rcases dropKeyword?_cons_eq_some hword with ⟨c, word', rfl, hc, -⟩
    rcases dropKeyword?_cons_eq_some hw with ⟨d, w', rfl, hd, -⟩
    subst hlong
    have hcd : c = d := (List.cons.inj hrest).1
    rw [hcd, foldsTo_of_ne (by decide) (by decide) (by decide) hd] at hc
    cases hc
  · rw [hrest, ← List.append_assoc] at hends
    have hread : dropWholeWord? (w ++ (tail ++ word)) "if".toList = some (tail ++ word) :=
      dropWholeWord?_eq_some_iff.2 ⟨hw.dropKeyword?_append _, endsWord_of_append hends⟩
    rw [List.append_assoc, hread]
    rfl

/-- A one-line if is cut into a line that opens a block, and a statement behind it. -/
theorem splitOneLineIf?_eq_some (htrim : t.trim = t)
    (h : t.splitOneLineIf? = some (header, stmt)) :
    BlockKind.conditional.Opens header ∧ header.IsSettled ∧ stmt.isBlankText = false ∧
      (header ++ stmt).Sublist t := by
  unfold splitOneLineIf? at h
  split at h
  · rename_i behind hif
    rcases splitAtThen?_eq_some h with
      ⟨u, word, rest, rfl, hspells, hbetween, hrest, hheader, rfl, huncut⟩
    have hu : u.endsInWord = false := hbetween.1
    -- the header ends with a word, so there is nothing to trim
    have hend : (u ++ word).trimEnd = u ++ word := by
      rw [trimEnd_eq_self_iff]
      intro c hc
      rw [List.getLast?_append_of_ne_nil u hspells.ne_nil] at hc
      exact hspells.not_blank (by decide) c (List.mem_of_getLast? hc)
    have hbegins : u ++ word <+: u ++ (word ++ rest) := by
      rw [← List.append_assoc]
      exact List.prefix_append _ _
    have htrimmed : (u ++ word).trim = u ++ word := trim_of_prefix htrim hbegins hend
    obtain rfl : header = u ++ word := hheader.trans htrimmed
    have hbegin : (dropWholeWord? (u ++ (word ++ rest)) "if".toList).isSome = true := by
      rw [hif]
      rfl
    have hword := dropWholeWord?_if_of_cut hbegin hspells hu
    refine ⟨⟨hword, u, word, rfl, hspells, hu⟩, ?_, isBlankText_trim hrest, ?_⟩
    · rcases Option.isSome_iff_exists.1 hword with ⟨r, hr⟩
      have huncut' : splitOneLineIf? (u ++ word) = none := by
        rw [splitOneLineIf?, hr]
        exact huncut
      rcases dropKeyword?_cons_eq_some (dropWholeWord?_eq_some_iff.1 hr).1 with ⟨c, t', heq, hc, -⟩
      refine isSettled_of_uncut htrimmed ?_ huncut' ?_
      · rw [heq]
        exact List.cons_ne_nil c t'
      · rw [heq]
        exact splitOneLineFunc?_of_if hc t'
    · rw [← List.append_assoc]
      exact (trim_sublist rest).append_left (u ++ word)
  · cases h

/-- A one-line function is cut into a line that opens a block, and a body behind it. -/
theorem splitOneLineFunc?_eq_some (htrim : t.trim = t)
    (h : t.splitOneLineFunc? = some (decl, body)) :
    BlockKind.func.Opens decl.trim ∧ decl.trim.IsSettled ∧ body.isBlankText = false ∧
      (decl.trim ++ body).Sublist t := by
  unfold splitOneLineFunc? at h
  split at h
  · rename_i args hargs
    rcases exists_lead_of_dropFuncLead? hargs with ⟨lead, rfl, hlead⟩
    have htake : (lead ++ args).take ((lead ++ args).length - args.length) = lead := by
      simp
    rw [htake] at h
    rcases splitAtArrow?_eq_some h with ⟨u, rest, rfl, hdecl, hbody, huncut⟩
    rw [List.append_assoc] at hdecl
    have hlast : decl.getLast? = some ')' := by
      rw [hdecl, ← List.append_assoc]
      exact List.getLast?_concat
    -- the declaration ends with a parenthesis, so there is nothing to trim
    have hend : decl.trimEnd = decl := by
      rw [trimEnd_eq_self_iff]
      intro c hc
      rw [hlast] at hc
      cases hc
      decide
    have heq : lead ++ (u ++ ')' :: rest) = decl ++ rest := by
      simp [hdecl]
    rw [heq] at htrim ⊢
    have htrimmed : decl.trim = decl := trim_of_prefix htrim (List.prefix_append decl rest) hend
    have hread : decl.dropFuncLead? = some (u ++ [')']) := by
      rw [hdecl]
      exact dropFuncLead?_append hlead _
    rw [htrimmed]
    refine ⟨⟨by rw [hread]; rfl, hlast⟩, isSettled_of_uncut htrimmed ?_ ?_ ?_,
      readArrow?_not_blank hbody, ?_⟩
    · rintro rfl
      cases hlast
    · simpa using splitOneLineIf?_of_func hread []
    · simp only [splitOneLineFunc?, hread]
      rw [hdecl]
      simpa using huncut
    · exact (readArrow?_sublist hbody).append_left decl
  · cases h

end Text

/-! ## Block forms -/

/-- Whether some lines are those of a line inside of some blocks, all of it cut out of one line of a
script. In strict mode no function opens a block. -/
structure Block.Nests (strict : Bool) (line : Text) (blocks : List Block) (inner : Text)
    (texts : List Text) : Prop where
  texts_eq : texts = around blocks inner
  opens : ∀ b ∈ blocks, b.kind.Opens b.opening
  settled : ∀ t ∈ texts, t.IsSettled
  strict_kinds : strict = true → ∀ b ∈ blocks, b.kind ≠ .func
  cut_out : (blocks.flatMap (·.opening) ++ inner).Sublist line

namespace Block.Nests

variable {strict : Bool} {line stmt inner : Text} {b : Block} {blocks : List Block}
  {texts : List Text}

/-- A line that is left as it stands is in no block. -/
theorem plain (strict : Bool) {t : Text} (h : t.IsSettled) (hline : t.Sublist line) :
    Nests strict line [] t [t] where
  texts_eq := rfl
  opens := by simp
  settled := by simpa using h
  strict_kinds := by simp
  cut_out := hline

/-- One more block around. -/
theorem cons (h : Nests strict stmt blocks inner texts) (hopens : b.kind.Opens b.opening)
    (hsettled : b.opening.IsSettled) (hstrict : strict = true → b.kind ≠ .func)
    (hline : (b.opening ++ stmt).Sublist line) :
    Nests strict line (b :: blocks) inner (b.opening :: texts ++ [b.kind.closing]) where
  texts_eq := by rw [h.texts_eq, around_cons]
  opens := List.forall_mem_cons.2 ⟨hopens, h.opens⟩
  settled := by
    intro t ht
    rcases List.mem_append.1 ht with hhead | hlast
    · rcases List.mem_cons.1 hhead with rfl | htexts
      · exact hsettled
      · exact h.settled t htexts
    · rw [List.mem_singleton.1 hlast]
      exact b.kind.isSettled_closing
  strict_kinds := fun hs => List.forall_mem_cons.2 ⟨hstrict hs, h.strict_kinds hs⟩
  cut_out := by
    rw [List.flatMap_cons, List.append_assoc]
    exact (h.cut_out.append_left b.opening).trans hline

end Block.Nests

/-- Whether some lines are the block form of a line: none if the line is blank, and else a line inside
of blocks. -/
def IsBlockForm (strict : Bool) (line : Text) (texts : List Text) : Prop :=
  (line.isBlankText = true ∧ texts = []) ∨
    (line.isBlankText = false ∧ ∃ blocks inner, Block.Nests strict line blocks inner texts)

/-- One more block around a block form. -/
theorem IsBlockForm.cons {strict : Bool} {line stmt : Text} {b : Block} {texts : List Text}
    (h : IsBlockForm strict stmt texts) (hopens : b.kind.Opens b.opening)
    (hsettled : b.opening.IsSettled) (hstrict : strict = true → b.kind ≠ .func)
    (hstmt : stmt.isBlankText = false) (hline : (b.opening ++ stmt).Sublist line.trim) :
    IsBlockForm strict line (b.opening :: texts ++ [b.kind.closing]) := by
  have hline' : (b.opening ++ stmt).Sublist line := hline.trans (Text.trim_sublist line)
  rcases h with ⟨hblank, -⟩ | ⟨-, blocks, inner, hnests⟩
  · rw [hstmt] at hblank
    cases hblank
  · refine .inr ⟨?_, b :: blocks, inner, hnests.cons hopens hsettled hstrict hline'⟩
    rw [Bool.eq_false_iff]
    intro hblank
    rw [Text.trim_of_blank hblank, List.sublist_nil] at hline
    exact hsettled.ne_nil (List.append_eq_nil_iff.1 hline).1

/-- What a line becomes is its block form. -/
theorem isBlockForm_of_expand {strict : Bool} {line : Text} {texts : List Text}
    (h : expand strict line = .ok texts) : IsBlockForm strict line texts := by
  induction line using expand_induction generalizing texts with
  | blank line hblank =>
    rw [expand_of_blank hblank] at h
    cases h
    exact .inl ⟨Text.isBlankText_of_trim_eq_nil hblank, rfl⟩
  | plain line hne hif hfunc =>
    rw [expand_of_plain hne hif hfunc] at h
    cases h
    have hsettled := Text.isSettled_of_uncut (Text.trim_trim line) hne hif hfunc
    refine .inr ⟨?_, [], line.trim, .plain strict hsettled (Text.trim_sublist line)⟩
    rw [Bool.eq_false_iff]
    intro hblank
    exact hne (Text.trim_of_blank hblank)
  | oneLineIf line header stmt hif ih =>
    rw [expand_of_if hif] at h
    rcases map_eq_ok h with ⟨inner, hinner, rfl⟩
    rcases Text.splitOneLineIf?_eq_some (Text.trim_trim line) hif with
      ⟨hopens, hsettled, hstmt, hline⟩
    exact (ih hinner).cons (b := ⟨.conditional, header⟩) hopens hsettled (by simp) hstmt hline
  | oneLineFunc line decl body hif hfunc ih =>
    rw [expand_of_func hif hfunc] at h
    split at h
    · cases h
    · rename_i hlenient
      rcases map_eq_ok h with ⟨inner, hinner, rfl⟩
      rcases Text.splitOneLineFunc?_eq_some (Text.trim_trim line) hfunc with
        ⟨hopens, hsettled, hbody, hline⟩
      exact (ih hinner).cons (b := ⟨.func, decl.trim⟩) hopens hsettled
        (fun hstrict => absurd hstrict hlenient) hbody hline

/-! ## Functions in a block form -/

/-- A block is opened with another letter than a function is ended with. -/
theorem BlockKind.Opens.exists_cons {k : BlockKind} {t : Text} (h : k.Opens t) :
    ∃ c t', t = c :: t' ∧ foldsTo 'e' c = false := by
  cases k with
  | conditional =>
    rcases Option.isSome_iff_exists.1 h.1 with ⟨rest, hrest⟩
    rcases Text.dropKeyword?_cons_eq_some (Text.dropWholeWord?_eq_some_iff.1 hrest).1 with
      ⟨c, t', rfl, hc, -⟩
    exact ⟨c, t', rfl, Text.foldsTo_of_ne (by decide) (by decide) (by decide) hc⟩
  | func =>
    rcases Option.isSome_iff_exists.1 h.1 with ⟨rest, hrest⟩
    rcases Text.exists_cons_of_dropFuncLead? hrest with ⟨c, t', rfl, hv | hf⟩
    · exact ⟨c, t', rfl, Text.foldsTo_of_ne (by decide) (by decide) (by decide) hv⟩
    · exact ⟨c, t', rfl, Text.foldsTo_of_ne (by decide) (by decide) (by decide) hf⟩

theorem BlockKind.Opens.classify_ne_endFunc {k : BlockKind} {t : Text} (h : k.Opens t) :
    LineRule.classify t ≠ some .endFunc := by
  intro hclassify
  have hread : LineForm.readEndFunc? t = some .endFunc := LineRule.read?_of_classify hclassify
  rcases h.exists_cons with ⟨c, t', rfl, hc⟩
  have hnone : Text.dropKeyword? (c :: t') "endfunc".toList = none :=
    Text.dropKeyword?_of_not_foldsTo hc
  rw [LineForm.readEndFunc?, hnone] at hread
  cases hread

theorem BlockKind.classify_closing_ne_func (k : BlockKind) (hd : FuncHeader) :
    LineRule.classify k.closing ≠ some (.func hd) := by
  intro hfunc
  cases k with
  | conditional =>
    have hnone : LineRule.classify (closing .conditional) = none := by decide
    cases hnone.symm.trans hfunc
  | func =>
    have hend : LineRule.classify (closing .func) = some .endFunc := by decide
    cases hend.symm.trans hfunc

/-- In a block form no function begins behind the end of another one. -/
theorem IsBlockForm.pairwise_classify {strict : Bool} {line : Text} {texts : List Text}
    (h : IsBlockForm strict line texts) :
    texts.Pairwise fun a b => LineRule.classify a = some .endFunc →
      ∀ hd, LineRule.classify b ≠ some (.func hd) := by
  rcases h with ⟨-, rfl⟩ | ⟨-, blocks, inner, hnests⟩
  · exact .nil
  · have hopening : ∀ t ∈ blocks.map (·.opening), LineRule.classify t ≠ some .endFunc := by
      intro t ht
      rcases List.mem_map.1 ht with ⟨b, hb, rfl⟩
      exact (hnests.opens b hb).classify_ne_endFunc
    have hclosing : ∀ t ∈ blocks.reverse.map (·.kind.closing),
        ∀ hd, LineRule.classify t ≠ some (.func hd) := by
      intro t ht
      rcases List.mem_map.1 ht with ⟨b, -, rfl⟩
      exact b.kind.classify_closing_ne_func
    rw [hnests.texts_eq, Block.around, List.pairwise_append, List.pairwise_cons]
    refine ⟨?_, ⟨?_, ?_⟩, ?_⟩
    · apply List.pairwise_of_forall_mem_list
      intro a ha b _ hend
      exact absurd hend (hopening a ha)
    · intro b hb _
      exact hclosing b hb
    · apply List.pairwise_of_forall_mem_list
      intro a _ b hb _
      exact hclosing b hb
    · intro a ha b _ hend
      exact absurd hend (hopening a ha)

end ScriptScan
