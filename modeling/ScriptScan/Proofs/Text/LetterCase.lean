import ScriptScan.Proofs.Text.Keyword
import ScriptScan.Proofs.Text.Name

/-!
# Letter case

There are two ways to disregard letter case: `Text.sameIgnoringCase` folds the letters a to z, and
`Text.upper` takes every character to its Unicode upper case. The second way goes further: texts
that are the same for the first are the same for the second, and have one key
(`upper_eq_of_sameIgnoringCase`, `key_eq_of_sameIgnoringCase`).
-/

namespace ScriptScan

/-! ## Characters -/

/-- What is checked number by number holds of the characters with these numbers. -/
theorem char_of_range {P : Char → Prop} {lo k : Nat}
    (h : ∀ n ∈ List.range' lo k, P (Char.ofNat n)) {c : Char} (hlo : lo ≤ c.toNat)
    (hhi : c.toNat < lo + k) : P c := by
  have hc := h c.toNat (List.mem_range'_1.2 ⟨hlo, hhi⟩)
  rwa [Char.ofNat_toNat] at hc

/-- What does not tell a capital letter from the small one does not see that a character is
folded. -/
theorem apply_toLower {α : Type} {f : Char → α}
    (h : ∀ n ∈ List.range' 0x41 26, f (Char.ofNat n).toLower = f (Char.ofNat n)) (c : Char) :
    f c.toLower = f c := by
  by_cases hupper : c.isUpper = true
  · obtain ⟨hlo, hhi⟩ : 0x41 ≤ c.toNat ∧ c.toNat ≤ 0x5A := of_decide_eq_true hupper
    exact char_of_range (P := fun c => f c.toLower = f c) h hlo (by omega)
  · rw [Text.toLower_of_not_isUpper hupper]

/-- Folding a letter does not change its upper case. -/
theorem upperChar_toLower (c : Char) : upperChar c.toLower = upperChar c := by
  apply apply_toLower
  intro n hn
  have hletters : ∀ n ∈ List.range' 0x41 26,
      (Char.ofNat n).toNat < 0x61 ∧ 0x61 ≤ (Char.ofNat n).toLower.toNat ∧
        (Char.ofNat n).toLower.toNat ≤ 0x7A ∧
        Char.ofNat ((Char.ofNat n).toLower.toNat - 32) = Char.ofNat n := by
    decide
  obtain ⟨hcapital, hlo, hhi, hback⟩ := hletters n hn
  rw [upperChar_of_lower hlo hhi, upperChar_of_lt hcapital, hback]

theorem isBlank_toLower (c : Char) : isBlank c.toLower = isBlank c :=
  apply_toLower (by decide) c

theorem startsName_toLower (c : Char) : startsName c.toLower = startsName c :=
  apply_toLower (by decide) c

/-- The upper case of an ASCII character folds back to it. -/
theorem map_toLower_upperChar {c : Char} (h : c.toNat < 0x80) :
    (upperChar c).map Char.toLower = [c.toLower] := by
  have hparts : c.toNat < 0x61 ∨ (0x61 ≤ c.toNat ∧ c.toNat ≤ 0x7A) ∨ 0x7B ≤ c.toNat := by omega
  rcases hparts with hlt | ⟨hlo, hhi⟩ | hgt
  · rw [upperChar_of_lt hlt]
    rfl
  · have hletter : (Char.ofNat (c.toNat - 32)).toLower = c.toLower :=
      char_of_range (P := fun c => (Char.ofNat (c.toNat - 32)).toLower = c.toLower)
        (k := 26) (by decide) hlo (by omega)
    rw [upperChar_of_lower hlo hhi, List.map_singleton, hletter]
  · -- the few signs behind the letter z
    exact char_of_range (P := fun c => (upperChar c).map Char.toLower = [c.toLower])
      (k := 5) (by decide +kernel) hgt h

/-! ## Texts -/

namespace Text

variable {a b c : Text}

theorem sameIgnoringCase_comm (a b : Text) : sameIgnoringCase a b = sameIgnoringCase b a := by
  rw [Bool.eq_iff_iff, sameIgnoringCase, sameIgnoringCase, beq_iff_eq, beq_iff_eq, eq_comm]

theorem sameIgnoringCase_trans (h : sameIgnoringCase a b = true)
    (h' : sameIgnoringCase b c = true) : sameIgnoringCase a c = true :=
  beq_iff_eq.2 ((beq_iff_eq.1 h).trans (beq_iff_eq.1 h'))

/-- An ASCII text differs from its upper case in letter case alone. -/
theorem sameIgnoringCase_upper {t : Text} (h : ∀ c ∈ t, c.toNat < 0x80) :
    sameIgnoringCase t t.upper = true := by
  rw [sameIgnoringCase, beq_iff_eq]
  induction t with
  | nil => rfl
  | cons c t ih =>
    obtain ⟨hc, ht⟩ := List.forall_mem_cons.1 h
    have hcons : upper (c :: t) = upperChar c ++ upper t := rfl
    rw [hcons, List.map_append, map_toLower_upperChar hc, List.map_cons, ih ht]
    rfl

theorem upper_map_toLower (t : Text) : upper (t.map Char.toLower) = t.upper := by
  simp [upper, List.flatMap_map, upperChar_toLower]

theorem trim_map_toLower (t : Text) : trim (t.map Char.toLower) = t.trim.map Char.toLower := by
  have hblank : isBlank ∘ Char.toLower = isBlank := funext isBlank_toLower
  simp only [trim, trimStart, trimEnd, List.dropWhile_map, ← List.map_reverse, hblank]

theorem key_map_toLower (t : Text) : key (t.map Char.toLower) = t.key := by
  rw [key, trim_map_toLower, upper_map_toLower, key]

theorem upper_eq_of_sameIgnoringCase (h : sameIgnoringCase a b = true) : a.upper = b.upper := by
  rw [← upper_map_toLower a, beq_iff_eq.1 h, upper_map_toLower]

theorem key_eq_of_sameIgnoringCase (h : sameIgnoringCase a b = true) : a.key = b.key := by
  rw [← key_map_toLower a, beq_iff_eq.1 h, key_map_toLower]

end Text

end ScriptScan
