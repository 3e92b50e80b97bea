import ScriptScan.Param.Parser
import ScriptScan.Proofs.Text.Keyword

/-!
# Modifiers and names

A parameter is written as some modifiers, each with white space behind it, then perhaps a dollar
sign, and a name. The reader takes words for modifiers as long as it can, so a name that is such a
word is left to it only because no white space stands behind a name.

* `readModifiers_append` — the reader takes all modifiers that stand before a name.
* `readModifiers_eq_ok` — what the reader takes is modifiers, none of them twice.
* `readHead_iff` — what stands before a default value, modifiers and name.
-/

namespace ScriptScan

namespace Param

/-! ## Words -/

/-- What may be said of a parameter before its name. -/
inductive Modifier where
  | byRef
  | const
deriving DecidableEq, Repr

namespace Modifier

/-- The word for a modifier, in lower case. -/
def word : Modifier → Text
  | byRef => "byref".toList
  | const => "const".toList

variable {m : Modifier} {w t rest : Text}

theorem ne_nil_of_spells (h : w.Spells m.word) : w ≠ [] := by
  cases m <;> exact h.ne_nil

theorem startsName_of_spells (h : w.Spells m.word) : ∀ c ∈ w, startsName c = true := by
  refine h.forall_startsName ?_
  cases m <;> decide

theorem sameIgnoringCase_byRef_iff (h : w.Spells m.word) :
    w.sameIgnoringCase "byref".toList = true ↔ m = byRef := by
  rw [Text.sameIgnoringCase, beq_iff_eq]
  cases m with
  | byRef =>
    rw [h.map_toLower (by decide) (by decide)]
    decide
  | const =>
    -- the first letters differ
    obtain ⟨c, w, rfl, hc, -⟩ := Text.dropKeyword?_cons_eq_some h
    have hlower : c.toLower = 'c' := (Text.foldsTo_iff (by decide)).1 hc
    rw [List.map_cons, hlower]
    simp

/-- The word for a modifier is found at the front of a text, whichever modifier it is. -/
theorem dropOneOf?_append (h : w.Spells m.word) (t : Text) :
    (w ++ t).dropOneOf? [byRef.word, const.word] = some t := by
  have hdrop := h.dropKeyword?_append t
  cases m with
  | byRef => simp [Text.dropOneOf?, hdrop]
  | const =>
    -- the first letters differ
    obtain ⟨c, w, rfl, hc, -⟩ := Text.dropKeyword?_cons_eq_some h
    have hfold : foldsTo 'b' c = false :=
      Text.foldsTo_of_ne (k := 'c') (by decide) (by decide) (by decide) hc
    have hother : Text.dropKeyword? (c :: (w ++ t)) byRef.word = none :=
      Text.dropKeyword?_of_not_foldsTo hfold
    rw [List.cons_append] at hdrop ⊢
    simp [Text.dropOneOf?, hdrop, hother]

theorem dropOneOf?_eq_some (h : t.dropOneOf? [byRef.word, const.word] = some rest) :
    ∃ m : Modifier, ∃ w, w.Spells m.word ∧ t = w ++ rest := by
  obtain ⟨keyword, hmem, hdrop⟩ := List.exists_of_findSome?_eq_some h
  obtain ⟨w, hw, heq⟩ := Text.exists_spells_of_dropKeyword? hdrop
  rcases List.mem_cons.1 hmem with rfl | hmem
  · exact ⟨byRef, w, hw, heq⟩
  · rw [List.mem_singleton] at hmem
    subst hmem
    exact ⟨const, w, hw, heq⟩

end Modifier

/-! ## Reading one -/

variable {m : Modifier} {done ms : List Modifier} {found : Modifiers}
  {t word gap front rest name : Text}

theorem readModifier?_eq (ht : t.trimStart = t) :
    readModifier? t =
      (t.dropOneOf? [Modifier.byRef.word, Modifier.const.word]).bind fun behind =>
        behind.dropBlanks?.map fun after => (t.take (t.length - behind.length), after) := by
  have hwords : ["byref".toList, "const".toList] = [Modifier.byRef.word, Modifier.const.word] := rfl
  unfold readModifier?
  rw [ht, hwords]
  cases hdrop : t.dropOneOf? [Modifier.byRef.word, Modifier.const.word] with
  | none => simp only [hdrop, Option.bind_none]
  | some behind => simp only [hdrop, Option.bind_some]

/-- A modifier is a word for it with white space behind it. -/
theorem readModifier?_eq_some_iff (ht : t.trimStart = t) :
    readModifier? t = some (word, rest) ↔
      ∃ m : Modifier, ∃ gap : Text, word.Spells m.word ∧ gap ≠ [] ∧ gap.isBlankText = true ∧
        t = word ++ (gap ++ rest) ∧ rest.trimStart = rest := by
  rw [readModifier?_eq ht]
  constructor
  · intro h
    obtain ⟨behind, hdrop, hbehind⟩ := Option.bind_eq_some_iff.1 h
    obtain ⟨m, w, hw, rfl⟩ := Modifier.dropOneOf?_eq_some hdrop
    obtain ⟨after, hafter, heq⟩ := Option.map_eq_some_iff.1 hbehind
    obtain ⟨gap, hne, hgap, rfl, hrest⟩ := Text.dropBlanks?_eq_some_iff.1 hafter
    simp only [List.length_append, Nat.add_sub_cancel, List.take_left, Prod.mk.injEq] at heq
    obtain ⟨rfl, rfl⟩ := heq
    exact ⟨m, gap, hw, hne, hgap, rfl, hrest⟩
  · rintro ⟨m, gap, hword, hne, hgap, rfl, hrest⟩
    have hblanks : Text.dropBlanks? (gap ++ rest) = some rest :=
      Text.dropBlanks?_eq_some_iff.2 ⟨gap, hne, hgap, rfl, hrest⟩
    simp [Modifier.dropOneOf?_append hword, hblanks]

/-! ## Reading all -/

/-- Whether a text is the given modifiers, each in some letter case and with white space behind
it. -/
inductive SpellsModifiers : Text → List Modifier → Prop where
  | nil : SpellsModifiers [] []
  | cons {word gap front : Text} {m : Modifier} {ms : List Modifier} (hword : word.Spells m.word)
    (hne : gap ≠ []) (hgap : gap.isBlankText = true) (hfront : SpellsModifiers front ms) :
    SpellsModifiers (word ++ (gap ++ front)) (m :: ms)

/-- Some modifiers as flags. -/
def Modifiers.ofList (ms : List Modifier) : Modifiers :=
  ⟨ms.contains .byRef, ms.contains .const⟩

theorem readModifiers_of_none (h : readModifier? t = none) :
    readModifiers found t = .ok (found, t) := by
  rw [readModifiers]
  split
  · rfl
  · rename_i hsome
    rw [h] at hsome
    cases hsome

/-- A modifier that has been read before is refused; otherwise the reader goes on behind it. -/
theorem readModifiers_of_some (h : readModifier? t = some (word, rest))
    (hword : word.Spells m.word) :
    readModifiers (.ofList done) t =
      if m ∈ done then .error word else readModifiers (.ofList (done ++ [m])) rest := by
  rw [readModifiers]
  split
  · rename_i hnone
    rw [h] at hnone
    cases hnone
  · rename_i hsome
    rw [h] at hsome
    cases hsome
    have hbyRef := Modifier.sameIgnoringCase_byRef_iff hword
    cases m with
    | byRef => simp only [hbyRef, if_true, Modifiers.ofList]; simp
    | const => simp only [hbyRef, reduceCtorEq, if_false, Modifiers.ofList]; simp

theorem SpellsModifiers.trimStart_append (h : SpellsModifiers front ms) (hrest : rest.trimStart = rest) :
    (front ++ rest).trimStart = front ++ rest := by
  cases h with
  | nil => exact hrest
  | cons hword hne hgap hfront =>
    rename_i word gap front m ms
    rw [Text.trimStart_eq_self_iff]
    intro c hc
    rw [List.append_assoc, List.head?_append_of_ne_nil _ (Modifier.ne_nil_of_spells hword)] at hc
    exact isBlank_of_startsName (Modifier.startsName_of_spells hword c (List.mem_of_head? hc))

/-- The reader takes all modifiers that stand before something that is none. -/
theorem readModifiers_append (hfront : SpellsModifiers front ms) (hnodup : (done ++ ms).Nodup)
    (hrest : rest.trimStart = rest) (hnone : readModifier? rest = none) :
    readModifiers (.ofList done) (front ++ rest) = .ok (.ofList (done ++ ms), rest) := by
  induction hfront generalizing done with
  | nil =>
    rw [List.append_nil]
    exact readModifiers_of_none hnone
  | @cons word gap front m ms hword hne hgap hfront ih =>
    have htrimmed := (SpellsModifiers.cons hword hne hgap hfront).trimStart_append hrest
    have hread : readModifier? (word ++ (gap ++ front) ++ rest) = some (word, front ++ rest) :=
      (readModifier?_eq_some_iff htrimmed).2
        ⟨m, gap, hword, hne, hgap, by simp, hfront.trimStart_append hrest⟩
    have hfresh : m ∉ done := by
      intro hm
      exact (List.nodup_append.1 hnodup).2.2 m hm m (List.mem_cons_self ..) rfl
    rw [readModifiers_of_some hread hword, if_neg hfresh, ih (by simpa using hnodup),
      List.append_assoc, List.singleton_append]

/-- What the reader takes is modifiers, none of them twice. The induction is on the length of the
text; every modifier makes it shorter. -/
theorem readModifiers_eq_ok (ht : t.trimStart = t) (hdone : done.Nodup)
    (h : readModifiers (.ofList done) t = .ok (found, rest)) :
    ∃ front ms, t = front ++ rest ∧ SpellsModifiers front ms ∧ (done ++ ms).Nodup ∧
      found = .ofList (done ++ ms) ∧ rest.trimStart = rest := by
  generalize hn : t.length = n
  induction n using Nat.strongRecOn generalizing t done with
  | _ n ih =>
    subst hn
    cases hread : readModifier? t with
    | none =>
      rw [readModifiers_of_none hread] at h
      cases h
      exact ⟨[], [], rfl, .nil, by simpa using hdone, by simp, ht⟩
    | some r =>
      rcases r with ⟨word, behind⟩
      obtain ⟨m, gap, hword, hne, hgap, heq, hbehind⟩ := (readModifier?_eq_some_iff ht).1 hread
      rw [readModifiers_of_some hread hword] at h
      by_cases hm : m ∈ done
      · rw [if_pos hm] at h
        cases h
      · rw [if_neg hm] at h
        have hdone' : (done ++ [m]).Nodup := by
          have hfresh : ∀ m' ∈ done, ¬m' = m := by
            rintro m' hm' rfl
            exact hm hm'
          simpa [List.nodup_append, hdone] using hfresh
        obtain ⟨front, ms, rfl, hfront, hnodup, hfound, hrest⟩ :=
          ih behind.length (length_of_readModifier? hread) hbehind hdone' h rfl
        refine ⟨word ++ (gap ++ front), m :: ms, ?_, .cons hword hne hgap hfront, ?_, ?_, hrest⟩
        · rw [heq]
          simp
        · simpa using hnodup
        · simpa using hfound

/-! ## Names -/

/-- Whether a text is a name for a parameter: an underscore or a letter a to z in any case, and such
characters or digits behind it. -/
def IsIdentifier (t : Text) : Prop :=
  ∃ c r, t = c :: r ∧ startsName c = true ∧ ∀ d ∈ r, startsName d = true ∨ d.isDigit = true

/-- A dollar sign, or nothing. -/
def IsSigil (t : Text) : Prop :=
  t = [] ∨ t = ['$']

/-- Whether a text is what stands before a default value: modifiers, none of them twice, perhaps a
dollar sign, and a name. -/
inductive IsHead : Text → List Modifier → Text → Prop where
  | mk {front sigil name : Text} {ms : List Modifier} (hfront : SpellsModifiers front ms)
    (hnodup : ms.Nodup) (hsigil : IsSigil sigil) (hname : IsIdentifier name) :
    IsHead (front ++ (sigil ++ name)) ms name

theorem IsIdentifier.ne_nil (h : IsIdentifier name) : name ≠ [] := by
  obtain ⟨c, r, rfl, -⟩ := h
  exact List.cons_ne_nil c r

theorem isIdentifier_cons {c : Char} {r : Text} :
    IsIdentifier (c :: r) ↔
      (startsName c && r.all fun d => startsName d || d.isDigit) = true := by
  simp [IsIdentifier]

/-- No name begins with a dollar sign. -/
theorem IsIdentifier.ne_dollar {c : Char} {r : Text} (h : IsIdentifier (c :: r)) : c ≠ '$' := by
  rintro rfl
  obtain ⟨c, r, heq, hc, -⟩ := h
  obtain ⟨rfl, -⟩ := List.cons.inj heq
  exact absurd hc (by decide)

theorem readName?_of_ne_dollar {c : Char} {r : Text} (h : c ≠ '$') :
    readName? (c :: r) =
      if (startsName c && r.all fun d => startsName d || d.isDigit) = true then some (c :: r)
      else none := by
  unfold readName?
  split
  · rename_i heq
    exact absurd (List.cons.inj heq).1 h
  · rfl

/-- A name is read with a dollar sign before it or without. -/
theorem readName?_eq_some_iff :
    readName? t = some name ↔ IsIdentifier name ∧ ∃ sigil, IsSigil sigil ∧ t = sigil ++ name := by
  constructor
  · intro h
    cases t with
    | nil => cases h
    | cons c t =>
      by_cases hc : c = '$'
      · subst hc
        cases t with
        | nil => cases h
        | cons c r =>
          simp only [readName?, Option.ite_none_right_eq_some, Option.some.injEq] at h
          obtain ⟨hname, rfl⟩ := h
          exact ⟨isIdentifier_cons.2 hname, ['$'], .inr rfl, rfl⟩
      · rw [readName?_of_ne_dollar hc] at h
        simp only [Option.ite_none_right_eq_some, Option.some.injEq] at h
        obtain ⟨hname, rfl⟩ := h
        exact ⟨isIdentifier_cons.2 hname, [], .inl rfl, rfl⟩
  · rintro ⟨hname, sigil, hsigil, rfl⟩
    obtain ⟨c, r, rfl, -⟩ := id hname
    rcases hsigil with rfl | rfl
    · rw [List.nil_append, readName?_of_ne_dollar hname.ne_dollar,
        if_pos (isIdentifier_cons.1 hname)]
    · simp [readName?, isIdentifier_cons.1 hname]

/-! ## Characters -/

/-- Whether a character may stand before a default value. -/
def isHeadChar (c : Char) : Bool :=
  isBlank c || startsName c || c.isDigit || c == '$'

theorem SpellsModifiers.forall_isHeadChar (h : SpellsModifiers front ms) :
    ∀ c ∈ front, isHeadChar c = true := by
  induction h with
  | nil => exact List.forall_mem_nil _
  | @cons word gap front m ms hword hne hgap hfront ih =>
    refine List.forall_mem_append.2 ⟨?_, List.forall_mem_append.2 ⟨?_, ih⟩⟩
    · intro c hc
      simp [isHeadChar, Modifier.startsName_of_spells hword c hc]
    · intro c hc
      simp [isHeadChar, List.all_eq_true.1 hgap c hc]

theorem IsIdentifier.cases_mem (h : IsIdentifier name) :
    ∀ c ∈ name, startsName c = true ∨ c.isDigit = true := by
  obtain ⟨d, r, rfl, hd, hr⟩ := h
  exact List.forall_mem_cons.2 ⟨.inl hd, hr⟩

theorem IsSigil.eq_dollar {sigil : Text} (h : IsSigil sigil) : ∀ c ∈ sigil, c = '$' := by
  rcases h with rfl | rfl <;> simp

/-- There is no white space between the dollar sign and the end of the name. -/
theorem not_blank_of_mem_sigil_append {sigil : Text} (hsigil : IsSigil sigil)
    (hname : IsIdentifier name) : ∀ c ∈ sigil ++ name, isBlank c = false := by
  refine List.forall_mem_append.2 ⟨?_, ?_⟩
  · intro c hc
    rw [hsigil.eq_dollar c hc]
    decide
  · intro c hc
    exact (hname.cases_mem c hc).elim isBlank_of_startsName isBlank_of_isDigit

theorem trim_sigil_append {sigil : Text} (hsigil : IsSigil sigil) (hname : IsIdentifier name) :
    Text.trim (sigil ++ name) = sigil ++ name := by
  have hblank := not_blank_of_mem_sigil_append hsigil hname
  rw [Text.trim_eq_self_iff]
  constructor
  · intro c hc
    exact hblank c (List.mem_of_head? hc)
  · intro c hc
    exact hblank c (List.mem_of_getLast? hc)

/-- What stands before a default value holds nothing but white space, names and dollar signs. -/
theorem IsHead.forall_isHeadChar {head : Text} (h : IsHead head ms name) :
    ∀ c ∈ head, isHeadChar c = true := by
  obtain ⟨hfront, -, hsigil, hname⟩ := h
  refine List.forall_mem_append.2 ⟨hfront.forall_isHeadChar, List.forall_mem_append.2 ⟨?_, ?_⟩⟩
  · intro c hc
    rw [hsigil.eq_dollar c hc]
    decide
  · intro c hc
    rcases hname.cases_mem c hc with hc | hc <;> simp [isHeadChar, hc]

/-! ## Heads -/

theorem IsHead.not_mem {head : Text} {c : Char} (h : IsHead head ms name)
    (hc : isHeadChar c = false) : c ∉ head := by
  intro hmem
  rw [h.forall_isHeadChar c hmem] at hc
  cases hc

theorem IsHead.ne_nil {head : Text} (h : IsHead head ms name) : head ≠ [] := by
  obtain ⟨-, -, -, hname⟩ := h
  simp [hname.ne_nil]

/-- What stands before a default value has no white space at its ends. -/
theorem IsHead.trim_eq_self {head : Text} (h : IsHead head ms name) : head.trim = head := by
  obtain ⟨hfront, -, hsigil, hname⟩ := h
  have htrim := trim_sigil_append hsigil hname
  rw [Text.trim_eq_self_iff, ← Text.trimStart_eq_self_iff]
  constructor
  · exact hfront.trimStart_append (Text.trimStart_of_trimmed htrim)
  · intro c hc
    rw [List.getLast?_append_of_ne_nil _ (by simp [hname.ne_nil])] at hc
    exact (Text.trim_eq_self_iff.1 htrim).2 c hc

/-- A name is not taken for a modifier, even if it is the word for one. -/
theorem readModifier?_of_not_blank (h : ∀ c ∈ t, isBlank c = false) : readModifier? t = none := by
  have hstart : t.trimStart = t := by
    rw [Text.trimStart_eq_self_iff]
    exact fun c hc => h c (List.mem_of_head? hc)
  rw [Option.eq_none_iff_forall_ne_some]
  rintro ⟨word, rest⟩ hread
  obtain ⟨m, gap, -, hne, hgap, rfl, -⟩ := (readModifier?_eq_some_iff hstart).1 hread
  -- there would be white space behind the word
  obtain ⟨c, gap, rfl⟩ := List.exists_cons_of_ne_nil hne
  have hblank : isBlank c = true := List.all_eq_true.1 hgap c (List.mem_cons_self ..)
  rw [h c (by simp)] at hblank
  cases hblank

/-- What the reader finds before a default value is its modifiers and its name. -/
theorem readHead_iff {head : Text} (hhead : head.trim = head) :
    (∃ rest, readModifiers {} head = .ok (found, rest) ∧ readName? rest.trim = some name) ↔
      ∃ ms, IsHead head ms name ∧ found = .ofList ms := by
  constructor
  · rintro ⟨rest, hread, hname⟩
    have hread : readModifiers (.ofList []) head = .ok (found, rest) := hread
    obtain ⟨front, ms, rfl, hfront, hnodup, rfl, hrest⟩ :=
      readModifiers_eq_ok (Text.trimStart_of_trimmed hhead) List.nodup_nil hread
    -- the rest is the end of a trimmed text
    rw [Text.trim_of_suffix hhead (List.suffix_append front rest) hrest] at hname
    obtain ⟨hidentifier, sigil, hsigil, rfl⟩ := readName?_eq_some_iff.1 hname
    exact ⟨ms, .mk hfront hnodup hsigil hidentifier, rfl⟩
  · rintro ⟨ms, ⟨hfront, hnodup, hsigil, hname⟩, rfl⟩
    rename_i front sigil
    have hblank := not_blank_of_mem_sigil_append hsigil hname
    have htrim := trim_sigil_append hsigil hname
    have hnodup : ([] ++ ms).Nodup := hnodup
    refine ⟨sigil ++ name, ?_, ?_⟩
    · exact readModifiers_append hfront hnodup (Text.trimStart_of_trimmed htrim)
        (readModifier?_of_not_blank hblank)
    · rw [htrim]
      exact readName?_eq_some_iff.2 ⟨hname, sigil, hsigil, rfl⟩

end Param

end ScriptScan
