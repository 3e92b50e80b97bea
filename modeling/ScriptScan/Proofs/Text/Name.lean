import ScriptScan.Func
import ScriptScan.Proofs.Text.Trim
import ScriptScan.Text.Keyword

/-!
# Names

What a declaration names is a name in the sense of `Text.IsName`: it begins with an underscore or a
letter a to z, and goes on with word characters. Two facts about such names carry the rest of the
theory:

* `IsName.isMainName_eq_false` — no name is the name of the main function, in any letter case;
* `IsName.key_ne_main` — nor does any name share its key, because the upper case of the first
  character never begins with a dollar sign.

No word character is white space, so the key of a name is its upper case (`IsName.key_eq_upper`).
-/

namespace ScriptScan

/-! ## Upper case below the letters -/

theorem le_first_of_mem_caseRuns : ∀ r ∈ caseRuns, 0x61 ≤ r.first := by decide +kernel

theorem le_fst_of_mem_longUpper : ∀ e ∈ longUpper, 0x61 ≤ e.1 := by decide +kernel

/-- Below the letter a nothing has an upper case of its own. -/
theorem upperChar_of_lt {c : Char} (h : c.toNat < 0x61) : upperChar c = [c] := by
  have hruns : caseRuns.find? (·.covers c.toNat) = none := by
    rw [List.find?_eq_none]
    intro r hr hcov
    have hfirst := le_first_of_mem_caseRuns r hr
    simp only [CaseRun.covers, Bool.and_eq_true, decide_eq_true_eq] at hcov
    omega
  have hlong : longUpper.lookup c.toNat = none := by
    rw [List.lookup_eq_none_iff]
    intro e he
    have hfst := le_fst_of_mem_longUpper e he
    rw [bne_iff_ne]
    omega
  simp [upperChar, hruns, hlong]

theorem upperChar_of_lower {c : Char} (h : 0x61 ≤ c.toNat) (h' : c.toNat ≤ 0x7A) :
    upperChar c = [Char.ofNat (c.toNat - 32)] := by
  have hrun : caseRuns.find? (·.covers c.toNat) = some ⟨0x61, 0x7A, 1, -32⟩ := by
    unfold caseRuns
    rw [List.find?_cons_of_pos]
    simp [CaseRun.covers, h, h', Nat.mod_one]
  have hshift : ((c.toNat : Int) + -32).toNat = c.toNat - 32 := by omega
  simp [upperChar, hrun, hshift]

/-! ## The first character -/

/-- The characters that may begin a name. -/
theorem startsName_cases {c : Char} (h : startsName c = true) :
    c = '_' ∨ (0x41 ≤ c.toNat ∧ c.toNat ≤ 0x5A) ∨ (0x61 ≤ c.toNat ∧ c.toNat ≤ 0x7A) ∨
      c = '\u017f' ∨ c = '\u212a' := by
  have halpha : c.isAlpha =
      (decide (c.val ≥ 'A'.val ∧ c.val ≤ 'Z'.val) ||
        (decide (c.val ≥ 'a'.val) && decide (c.val ≤ 'z'.val))) := rfl
  simp only [startsName, Bool.or_eq_true, beq_iff_eq, halpha, Bool.and_eq_true,
    decide_eq_true_eq] at h
  rcases h with ((h | h | h) | h) | h
  · exact .inl h
  · exact .inr (.inl h)
  · exact .inr (.inr (.inl h))
  · exact .inr (.inr (.inr (.inl h)))
  · exact .inr (.inr (.inr (.inr h)))

theorem isBlank_of_startsName {c : Char} (h : startsName c = true) : isBlank c = false := by
  rcases startsName_cases h with rfl | ⟨h1, h2⟩ | ⟨h1, h2⟩ | rfl | rfl
  · decide
  · simp only [isBlank, CharSet.contains, blankChars, CharSet.memberAt]
    grind
  · simp only [isBlank, CharSet.contains, blankChars, CharSet.memberAt]
    grind
  · decide
  · decide

theorem isBlank_of_isDigit {c : Char} (h : c.isDigit = true) : isBlank c = false := by
  simp only [Char.isDigit, Bool.and_eq_true, decide_eq_true_eq] at h
  obtain ⟨h1, h2⟩ : 0x30 ≤ c.toNat ∧ c.toNat ≤ 0x39 := h
  simp only [isBlank, CharSet.contains, blankChars, CharSet.memberAt]
  grind

/-- The code points of white space. -/
def blankCodes : List Nat :=
  List.range' 9 5 ++ [0x20, 0x85, 0xA0, 0x1680] ++ List.range' 0x2000 11 ++
    [0x2028, 0x2029, 0x202F, 0x205F, 0x3000]

theorem mem_blankCodes {c : Char} (h : isBlank c = true) : c.toNat ∈ blankCodes := by
  simp only [isBlank, CharSet.contains, blankChars, CharSet.memberAt] at h
  simp only [blankCodes, List.mem_append, List.mem_range'_1, List.mem_cons, List.not_mem_nil]
  grind

theorem memberAt_blankCodes :
    ∀ n ∈ blankCodes, CharSet.memberAt n false wordChars.changes = false := by
  decide +kernel

theorem isBlank_of_isWord {c : Char} (h : isWord c = true) : isBlank c = false := by
  rw [Bool.eq_false_iff]
  intro hblank
  have hmember := memberAt_blankCodes c.toNat (mem_blankCodes hblank)
  rw [isWord, CharSet.contains, hmember] at h
  cases h

theorem memberAt_letters :
    ∀ n ∈ [0x5F, 0x17F, 0x212A] ++ List.range' 0x41 26 ++ List.range' 0x61 26,
      CharSet.memberAt n false wordChars.changes = true := by
  decide +kernel

theorem isWord_of_startsName {c : Char} (h : startsName c = true) : isWord c = true := by
  refine memberAt_letters c.toNat ?_
  simp only [List.mem_append, List.mem_cons, List.not_mem_nil, List.mem_range'_1]
  rcases startsName_cases h with rfl | ⟨h1, h2⟩ | ⟨h1, h2⟩ | rfl | rfl
  · simp
  · exact .inl (.inr ⟨h1, by omega⟩)
  · exact .inr ⟨h1, by omega⟩
  · simp
  · simp

/-- The upper case of what begins a name is some character, and the first of it is no dollar
sign. -/
theorem upperChar_of_startsName {c : Char} (h : startsName c = true) :
    ∃ d t, upperChar c = d :: t ∧ d ≠ '$' := by
  rcases startsName_cases h with rfl | ⟨h1, h2⟩ | ⟨h1, h2⟩ | rfl | rfl
  · exact ⟨'_', [], by decide, by decide⟩
  · -- a capital letter stays as it is
    refine ⟨c, [], upperChar_of_lt (by omega), ?_⟩
    rintro rfl
    exact absurd h1 (by decide)
  · -- a small letter becomes a capital one, and no capital letter is a dollar sign
    have hletters : ∀ n < 0x7B, 0x61 ≤ n → Char.ofNat (n - 32) ≠ '$' := by decide
    exact ⟨_, [], upperChar_of_lower h1 h2, hletters _ (by omega) h1⟩
  · -- the long s and the Kelvin sign are letters in any case
    exact ⟨'S', [], by decide, by decide⟩
  · exact ⟨'\u212a', [], by decide, by decide⟩

theorem toLower_ne_dollar {c : Char} (h : startsName c = true) : c.toLower ≠ '$' := by
  have hletters : ∀ n < 0x7B, 0x41 ≤ n → (Char.ofNat n).toLower ≠ '$' := by decide
  rcases startsName_cases h with rfl | ⟨h1, h2⟩ | ⟨h1, h2⟩ | rfl | rfl
  · decide
  · simpa using hletters c.toNat (by omega) h1
  · simpa using hletters c.toNat (by omega) (by omega)
  · decide
  · decide

namespace Text

/-! ## Names -/

/-- Whether a text is a name: a character that may begin one, and word characters behind it. -/
def IsName (t : Text) : Prop :=
  ∃ c r, t = c :: r ∧ startsName c = true ∧ ∀ d ∈ r, isWord d = true

theorem takeName?_eq_some {t name rest : Text} (h : t.takeName? = some (name, rest)) :
    name.IsName ∧ t = name ++ rest := by
  cases t with
  | nil => simp [takeName?] at h
  | cons c t =>
    simp only [takeName?] at h
    split at h
    · rename_i hc
      cases h
      refine ⟨⟨c, _, rfl, hc, ?_⟩, ?_⟩
      · intro d hd
        exact List.all_eq_true.1 List.all_takeWhile d hd
      · simp
    · simp at h

/-- A name is taken whole if no word character stands behind it. -/
theorem takeName?_of_isName {name rest : Text} (h : name.IsName) (hrest : endsWord rest = true) :
    takeName? (name ++ rest) = some (name, rest) := by
  obtain ⟨c, r, rfl, hc, hr⟩ := h
  have hend : rest.takeWhile isWord = [] ∧ rest.dropWhile isWord = rest := by
    cases rest with
    | nil => simp
    | cons d rest =>
      have hd : isWord d = false := by simpa [endsWord] using hrest
      simp [hd]
  rw [List.cons_append, takeName?, if_pos hc, List.takeWhile_append_of_pos hr,
    List.dropWhile_append_of_pos hr, hend.1, hend.2, List.append_nil]

namespace IsName

variable {name : Text}

/-- No name is the name of the main function. -/
theorem isMainName_eq_false (h : name.IsName) : isMainName name = false := by
  rcases h with ⟨c, r, rfl, hc, _⟩
  rw [Bool.eq_false_iff]
  intro hmain
  simp only [isMainName, sameIgnoringCase, beq_iff_eq, List.map_cons] at hmain
  have hhead : c.toLower = '$'.toLower := (List.cons.inj hmain).1
  exact toLower_ne_dollar hc hhead

/-- The key of a name begins with the upper case of its first character. -/
theorem key_eq_append {c : Char} {r : Text} (hc : startsName c = true) :
    ∃ r', key (c :: r) = upperChar c ++ r' := by
  have hblank := isBlank_of_startsName hc
  have hstart : trimStart (c :: r) = c :: r := by
    simp [trimStart, hblank]
  -- trimming the end may take all of the rest, but not the first character
  have hend : ∃ u, trimEnd (c :: r) = c :: u := by
    rw [trimEnd, List.reverse_cons, List.dropWhile_append]
    split
    · exact ⟨[], by simp [hblank]⟩
    · exact ⟨(r.reverse.dropWhile isBlank).reverse, by simp⟩
  rcases hend with ⟨u, hu⟩
  exact ⟨upper u, by rw [key, trim, hstart, hu]; rfl⟩

/-- No name shares its key with the main function. -/
theorem key_ne_main (h : name.IsName) : name.key ≠ mainName.key := by
  rcases h with ⟨c, r, rfl, hc, _⟩
  rcases key_eq_append (r := r) hc with ⟨r', hr'⟩
  rcases upperChar_of_startsName hc with ⟨d, t, hd, hne⟩
  intro heq
  rw [hr', hd] at heq
  have hmain : mainName.key = "$GLOBAL".toList := by decide
  rw [hmain] at heq
  exact hne (List.cons.inj heq).1

theorem not_blank (h : name.IsName) : ∀ c ∈ name, isBlank c = false := by
  rcases h with ⟨c, r, rfl, hc, hr⟩
  exact List.forall_mem_cons.2 ⟨isBlank_of_startsName hc, fun d hd => isBlank_of_isWord (hr d hd)⟩

/-- The key of a name is its upper case. -/
theorem key_eq_upper (h : name.IsName) : name.key = name.upper := by
  have htrim : name.trim = name := by
    rw [trim_eq_self_iff]
    constructor
    · exact fun c hc => h.not_blank c (List.mem_of_head? hc)
    · exact fun c hc => h.not_blank c (List.mem_of_getLast? hc)
  rw [key, htrim]

end IsName

end Text

end ScriptScan
