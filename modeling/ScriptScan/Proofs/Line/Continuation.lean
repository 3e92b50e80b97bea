import ScriptScan.Line.Logical
import ScriptScan.Proofs.Text.LetterCase

/-!
# Continuation markers

A text asks to be continued by an underscore at its end, with white space or nothing before it. A
line that is put behind another one with a space between them keeps its marker, or stays without one
(`Text.asksForMore_append_iff`): whether a joined line goes on is decided by the last physical line
alone.

What is put behind white space is no part of the word before it, so no line becomes a marker of
block comments or regions by being continued (`Marker.read?_append_blank`).
-/

namespace ScriptScan

namespace Text

variable {t u keyword : Text} {c : Char}

/-! ## Asking for more -/

/-- Whether a text ends in a continuation marker: an underscore, with white space before it if there
is anything before it. -/
def AsksForMore (t : Text) : Prop :=
  ∃ head, t = head ++ ['_'] ∧ ∀ c, head.getLast? = some c → isBlank c = true

theorem not_asksForMore_nil : ¬AsksForMore [] := by
  rintro ⟨head, h, -⟩
  simp at h

theorem asksForMore_concat_iff {d : Char} :
    AsksForMore (t ++ [d]) ↔ d = '_' ∧ ∀ c, t.getLast? = some c → isBlank c = true := by
  constructor
  · rintro ⟨head, h, hlast⟩
    obtain ⟨rfl, hd⟩ := List.append_inj' h rfl
    exact ⟨List.singleton_inj.1 hd, hlast⟩
  · rintro ⟨rfl, hlast⟩
    exact ⟨t, rfl, hlast⟩

theorem beforeContinuation?_of_last (h : t.getLast? ≠ some '_') : beforeContinuation? t = none := by
  rw [← List.head?_reverse] at h
  unfold beforeContinuation?
  split
  · rename_i hr
    exact absurd (by rw [hr]; rfl) h
  · rename_i hr
    exact absurd (by rw [hr]; rfl) h
  · rfl

/-- The reader of markers cuts off the underscore and the one white-space character before it. -/
theorem beforeContinuation?_concat (hc : isBlank c = true) (head : Text) :
    beforeContinuation? (head ++ [c, '_']) = some head := by
  simp [beforeContinuation?, hc]

theorem isSome_beforeContinuation?_iff : (beforeContinuation? t).isSome = true ↔ t.AsksForMore := by
  rcases List.eq_nil_or_concat t with rfl | ⟨t, d, rfl⟩
  · exact iff_of_false (by decide) not_asksForMore_nil
  · rw [List.concat_eq_append, asksForMore_concat_iff]
    by_cases hd : d = '_'
    · -- what stands before the underscore decides
      subst hd
      rcases List.eq_nil_or_concat t with rfl | ⟨t, c, rfl⟩
      · exact iff_of_true rfl ⟨rfl, by simp⟩
      · cases hc : isBlank c <;> simp [beforeContinuation?, hc]
    · have hnone : beforeContinuation? (t ++ [d]) = none :=
        beforeContinuation?_of_last (by simpa using hd)
      simp [hnone, hd]

theorem beforeContinuation?_eq_none_iff : beforeContinuation? t = none ↔ ¬t.AsksForMore := by
  rw [← isSome_beforeContinuation?_iff, Bool.not_eq_true, Option.isSome_eq_false_iff,
    Option.isNone_iff_eq_none]

instance (t : Text) : Decidable t.AsksForMore :=
  decidable_of_iff _ isSome_beforeContinuation?_iff

/-- Behind other text and a space, a text asks to be continued exactly if it does so by itself. -/
theorem asksForMore_append_iff (t u : Text) : AsksForMore (u ++ ' ' :: t) ↔ t.AsksForMore := by
  rcases List.eq_nil_or_concat t with rfl | ⟨t, d, rfl⟩
  · refine iff_of_false ?_ not_asksForMore_nil
    rw [asksForMore_concat_iff]
    exact fun h => absurd h.1 (by decide)
  · have hassoc : u ++ ' ' :: t.concat d = (u ++ ' ' :: t) ++ [d] := by simp
    rw [hassoc, List.concat_eq_append, asksForMore_concat_iff, asksForMore_concat_iff]
    refine and_congr_right fun _ => ?_
    -- directly before the last character stands the space, if nothing else does
    rcases List.eq_nil_or_concat t with rfl | ⟨t, c, rfl⟩
    · have hspace : isBlank ' ' = true := by decide
      simp [hspace]
    · have hassoc : u ++ ' ' :: (t ++ [c]) = (u ++ ' ' :: t) ++ [c] := by simp
      rw [List.concat_eq_append, hassoc, List.getLast?_concat, List.getLast?_concat]

/-- A text that does not ask to be continued does not do so behind other text and a space. -/
theorem beforeContinuation?_append (h : beforeContinuation? t = none) (u : Text) :
    beforeContinuation? (u ++ ' ' :: t) = none := by
  rw [beforeContinuation?_eq_none_iff, asksForMore_append_iff, ← beforeContinuation?_eq_none_iff]
  exact h

/-! ## Words before white space -/

theorem isBlank_of_foldsTo {k c : Char} (h : foldsTo k c = true) : isBlank c = isBlank k := by
  have hspecial : isBlank '\u017f' = false ∧ isBlank '\u212a' = false := by decide
  have hletters : isBlank 's' = false ∧ isBlank 'k' = false := by decide
  simp only [foldsTo, Bool.or_eq_true, Bool.and_eq_true, beq_iff_eq] at h
  rcases h with (rfl | ⟨rfl, rfl⟩) | ⟨rfl, rfl⟩
  · exact (isBlank_toLower c).symm
  · rw [hspecial.1, hletters.1]
  · rw [hspecial.2, hletters.2]

/-- A text begins with a whole word or not, whatever stands behind white space in it. -/
theorem isSome_dropWholeWord?_append_blank (hkeyword : ∀ k ∈ keyword, isBlank k = false)
    (hc : isBlank c = true) (t u : Text) :
    (dropWholeWord? (t ++ c :: u) keyword).isSome = (dropWholeWord? t keyword).isSome := by
  induction keyword generalizing t with
  | nil =>
    have hword : isWord c = false := by
      rw [Bool.eq_false_iff]
      intro hword
      rw [isBlank_of_isWord hword] at hc
      cases hc
    -- the word is over: white space ends it as well as the end of the text
    cases t with
    | nil => simp [dropWholeWord?, dropKeyword?, endsWord, hword]
    | cons d t => cases hd : isWord d <;> simp [dropWholeWord?, dropKeyword?_nil, endsWord, hd]
  | cons k keyword ih =>
    have hrest : ∀ k ∈ keyword, isBlank k = false := fun k hk =>
      hkeyword k (List.mem_cons_of_mem _ hk)
    cases t with
    | nil =>
      have hfolds : foldsTo k c = false := by
        rw [Bool.eq_false_iff]
        intro hfolds
        rw [isBlank_of_foldsTo hfolds, hkeyword k (List.mem_cons_self ..)] at hc
        cases hc
      simp [dropWholeWord?, dropKeyword?, hfolds]
    | cons d t =>
      have hstep := ih hrest t
      unfold dropWholeWord? at hstep ⊢
      cases hfolds : foldsTo k d with
      | true => simpa [dropKeyword?, hfolds] using hstep
      | false => simp [dropKeyword?, hfolds]

end Text

/-- A line is a marker or not, whatever stands behind white space in it. -/
theorem Marker.read?_append_blank {c : Char} (hc : isBlank c = true) {t : Text} (hne : t ≠ [])
    (u : Text) : read? (t ++ c :: u) = read? t := by
  obtain ⟨d, t, rfl⟩ := List.exists_cons_of_ne_nil hne
  by_cases hd : d = '#'
  · subst hd
    have hletters : ["comments-start".toList, "cs".toList, "comments-end".toList, "ce".toList,
        "region".toList, "endregion".toList, "end-region".toList].all
          (·.all (!isBlank ·)) = true := by
      decide
    have hwords : ∀ keyword ∈ ["comments-start".toList, "cs".toList, "comments-end".toList,
        "ce".toList, "region".toList, "endregion".toList, "end-region".toList],
        (Text.dropWholeWord? (t ++ c :: u) keyword).isSome =
          (Text.dropWholeWord? t keyword).isSome := by
      intro keyword hmem
      have hkeyword := List.all_eq_true.1 (List.all_eq_true.1 hletters keyword hmem)
      refine Text.isSome_dropWholeWord?_append_blank ?_ hc t u
      exact fun k hk => by simpa using hkeyword k hk
    simp only [List.forall_mem_cons] at hwords
    obtain ⟨hstart, hcs, hend, hce, hregion, hendregion, hend_region, -⟩ := hwords
    simp only [List.cons_append, read?, hstart, hcs, hend, hce, hregion, hendregion, hend_region]
  · unfold read?
    split
    · rename_i rest heq
      exact absurd (List.cons.inj heq).1 hd
    · split
      · rename_i rest heq
        exact absurd (List.cons.inj heq).1 hd
      · rfl

end ScriptScan
