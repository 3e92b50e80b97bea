import Mathlib.Data.List.Forall2
import ScriptScan.Proofs.Param.Items
import ScriptScan.Proofs.Param.Modifiers

/-!
# The grammar of parameter lists

An item declares a parameter if it is modifiers and a name, or these and an equals sign with a
default value behind it. A list is read exactly if it is blank or each of its items declares a
parameter; otherwise the error is at the first item that declares none.

* `readItem_eq_ok_iff` — one item.
* `readItems_eq_ok_iff`, `readItems_eq_error` — items in order.
* `parseList_eq_ok_iff`, `parseList_eq_error`, `parseList_grammar` — whole lists.
-/

namespace ScriptScan

namespace Param

/-- Whether an item declares a parameter. The equals sign is the first one outside literals. -/
inductive Declares : Text → Param → Prop where
  | required {head name : Text} {ms : List Modifier} (hhead : IsHead head ms name) :
    Declares head ⟨⟨name⟩, ms.contains .byRef, ms.contains .const, none⟩
  | optional {head gap value name : Text} {ms : List Modifier} (hhead : IsHead head ms name)
    (hgap : gap.isBlankText = true) (hfirst : Literal.IsFirst '=' (head ++ gap))
    (hvalue : value.isBlankText = false) :
    Declares (head ++ gap ++ '=' :: value)
      ⟨⟨name⟩, ms.contains .byRef, ms.contains .const, some value.trim⟩

variable {n : Nat} {ms : List Modifier} {head item name : Text} {segments : List Text} {p : Param}
  {ps : List Param} {default? : Option Text} {e : ParamError}

/-! ## One item -/

theorem IsIdentifier.ofText_eq (h : IsIdentifier name) : Variable.ofText name = ⟨name⟩ := by
  unfold Variable.ofText
  split
  · exact absurd rfl h.ne_dollar
  · rfl

theorem finish_eq_ok_iff (hhead : head.trim = head) :
    readItem.finish n item head default? = .ok p ↔
      ∃ ms name, IsHead head ms name ∧
        p = ⟨⟨name⟩, ms.contains .byRef, ms.contains .const, default?⟩ := by
  unfold readItem.finish
  constructor
  · intro h
    split at h
    · cases h
    · rename_i found rest hread
      split at h
      · cases h
      · rename_i name hname
        obtain ⟨ms, hms, rfl⟩ := (readHead_iff hhead).1 ⟨rest, hread, hname⟩
        have hidentifier : IsIdentifier name := (readName?_eq_some_iff.1 hname).1
        rw [hidentifier.ofText_eq] at h
        exact ⟨ms, name, hms, (Except.ok.inj h).symm⟩
  · rintro ⟨ms, name, hms, rfl⟩
    obtain ⟨rest, hread, hname⟩ := (readHead_iff hhead).2 ⟨ms, hms, rfl⟩
    have hidentifier : IsIdentifier name := (readName?_eq_some_iff.1 hname).1
    simp only [hread, hname, hidentifier.ofText_eq, Modifiers.ofList]

/-- An item is read if and only if it declares a parameter, and as that parameter. -/
theorem readItem_eq_ok_iff (hitem : item.trim = item) :
    readItem n item = .ok p ↔ Declares item p := by
  constructor
  · intro h
    unfold readItem at h
    split at h
    · cases h
    · split at h
      · rename_i hsplit
        obtain ⟨ms, name, hms, rfl⟩ := (finish_eq_ok_iff hitem).1 h
        exact .required hms
      · rename_i before value hsplit
        split at h
        · cases h
        · rename_i hvalue
          obtain ⟨ms, name, hms, rfl⟩ := (finish_eq_ok_iff (Text.trim_trim before)).1 h
          obtain ⟨rfl, hfirst⟩ := Literal.splitOutside?_eq_some_iff_isFirst.1 hsplit
          obtain ⟨gap, hgap, hbefore⟩ := Text.exists_trim_of_prefix hitem
          -- the part before the equals sign is the head and white space
          rw [hbefore] at hfirst
          have hdeclares := Declares.optional hms hgap hfirst (by simpa using hvalue)
          rw [← hbefore] at hdeclares
          exact hdeclares
  · intro h
    cases h with
    | required hhead =>
      have hsplit : Literal.outside.splitOutside? '=' item = none :=
        Literal.splitOutside?_eq_none_iff.2
          (Text.neverMeets_of_not_mem (hhead.not_mem (by decide)))
      simp only [readItem, List.isEmpty_iff, hhead.ne_nil, if_false, hsplit]
      exact (finish_eq_ok_iff hitem).2 ⟨_, _, hhead, rfl⟩
    | @optional head gap value name ms hhead hgap hfirst hvalue =>
      have hsplit := Literal.splitOutside?_eq_some_iff_isFirst.2
        (⟨rfl, hfirst⟩ : head ++ gap ++ '=' :: value = _ ∧ _)
      have htrim := Text.trim_append_blank hhead.trim_eq_self hhead.ne_nil hgap
      have hne : (head ++ gap ++ '=' :: value).isEmpty = false := by simp
      simp only [readItem, hne, hsplit, hvalue, htrim, Bool.false_eq_true, if_false]
      exact (finish_eq_ok_iff hhead.trim_eq_self).2 ⟨_, _, hhead, rfl⟩

theorem finish_eq_error (h : readItem.finish n item head default? = .error e) : e.position = n := by
  unfold readItem.finish at h
  split at h
  · cases h
    rfl
  · split at h
    · cases h
      rfl
    · cases h

theorem readItem_eq_error (h : readItem n item = .error e) : e.position = n := by
  unfold readItem at h
  split at h
  · cases h
    rfl
  · split at h
    · exact finish_eq_error h
    · split at h
      · cases h
        rfl
      · exact finish_eq_error h

/-! ## Items in order -/

theorem readItems_eq_ok_iff (hsegments : ∀ item ∈ segments, item.trim = item) :
    readItems n segments = .ok ps ↔ List.Forall₂ Declares segments ps := by
  induction segments generalizing n ps with
  | nil =>
    rw [List.forall₂_nil_left_iff]
    simp [readItems, eq_comm]
  | cons item segments ih =>
    obtain ⟨hitem, hsegments⟩ := List.forall_mem_cons.1 hsegments
    rw [List.forall₂_cons_left_iff]
    constructor
    · intro h
      unfold readItems at h
      split at h
      · cases h
      · rename_i p hread
        split at h
        · cases h
        · rename_i rest hrest
          cases h
          exact ⟨p, rest, (readItem_eq_ok_iff hitem).1 hread, (ih hsegments).1 hrest, rfl⟩
    · rintro ⟨p, rest, hp, hrest, rfl⟩
      simp only [readItems, (readItem_eq_ok_iff hitem).2 hp, (ih hsegments).2 hrest]

/-- An error is at the first item that declares no parameter. -/
theorem readItems_eq_error (hsegments : ∀ item ∈ segments, item.trim = item)
    (h : readItems n segments = .error e) :
    ∃ before item after, segments = before ++ item :: after ∧ e.position = n + before.length ∧
      (∀ i ∈ before, ∃ p, Declares i p) ∧ ∀ p, ¬Declares item p := by
  induction segments generalizing n with
  | nil => cases h
  | cons item segments ih =>
    obtain ⟨hitem, hsegments⟩ := List.forall_mem_cons.1 hsegments
    unfold readItems at h
    split at h
    · rename_i e' hread
      cases h
      refine ⟨[], item, segments, rfl, readItem_eq_error hread, List.forall_mem_nil _, ?_⟩
      intro p hp
      rw [(readItem_eq_ok_iff hitem).2 hp] at hread
      cases hread
    · rename_i p hread
      split at h
      · rename_i e' hrest
        cases h
        obtain ⟨before, item', after, rfl, hposition, hbefore, hnone⟩ := ih hsegments hrest
        refine ⟨item :: before, item', after, rfl, ?_, ?_, hnone⟩
        · rw [hposition, List.length_cons]
          omega
        · exact List.forall_mem_cons.2 ⟨⟨p, (readItem_eq_ok_iff hitem).1 hread⟩, hbefore⟩
      · cases h

/-! ## Lists -/

theorem trim_of_mem_items (text : Text) : ∀ item ∈ items text, item.trim = item := by
  intro item hitem
  obtain ⟨piece, -, rfl⟩ := List.mem_map.1 hitem
  exact Text.trim_trim piece

/-- A blank text is one piece, and that declares nothing. -/
theorem not_forall₂_of_blank {text : Text} (h : text.isBlankText = true) :
    ¬List.Forall₂ Declares (items text) ps := by
  have hcomma : ',' ∉ text := by
    intro hmem
    exact absurd (List.all_eq_true.1 h _ hmem) (by decide)
  rw [items, splitItems_of_whole (Text.neverMeets_of_not_mem hcomma), List.map_singleton,
    Text.trim_of_blank h, List.forall₂_cons_left_iff]
  rintro ⟨p, rest, hp, -⟩
  generalize hitem : ([] : Text) = item at hp
  cases hp with
  | required hhead => exact hhead.ne_nil hitem.symm
  | optional => simp at hitem

/-- A list is read if it is blank, and then as no parameters, or if each item declares one, and then
as these. -/
theorem parseList_eq_ok_iff {text : Text} :
    parseList text = .ok ps ↔
      (text.isBlankText = true ∧ ps = []) ∨ List.Forall₂ Declares (items text) ps := by
  unfold parseList
  by_cases hblank : text.isBlankText = true
  · have hnone : ¬List.Forall₂ Declares (items text) ps := not_forall₂_of_blank hblank
    rw [if_pos hblank, or_iff_left hnone]
    simp [hblank, eq_comm]
  · rw [if_neg hblank, readItems_eq_ok_iff (trim_of_mem_items text)]
    simp [hblank]

theorem parseList_eq_error {text : Text} (h : parseList text = .error e) :
    ∃ before item after, items text = before ++ item :: after ∧
      e.position = before.length + 1 ∧ (∀ i ∈ before, ∃ p, Declares i p) ∧
      ∀ p, ¬Declares item p := by
  unfold parseList at h
  split at h
  · cases h
  · obtain ⟨before, item, after, heq, hposition, hbefore, hnone⟩ :=
      readItems_eq_error (trim_of_mem_items text) h
    exact ⟨before, item, after, heq, by rw [hposition, Nat.add_comm], hbefore, hnone⟩

/-- A parameter list is cut in one way into items, at the commas outside quotes and brackets. It is
read if it is blank, and then as no parameters, or if each item declares a parameter, and then as
these; otherwise the error is at the first item that declares none. -/
theorem parseList_grammar (text : Text) :
    ∃ pieces, (∀ other, CutInto text other ↔ other = pieces) ∧
      (∀ ps, parseList text = .ok ps ↔
        (text.isBlankText = true ∧ ps = []) ∨
          List.Forall₂ Declares (pieces.map Text.trim) ps) ∧
      ∀ e, parseList text = .error e →
        ∃ before item after, pieces.map Text.trim = before ++ item :: after ∧
          e.position = before.length + 1 ∧ (∀ i ∈ before, ∃ p, Declares i p) ∧
          ∀ p, ¬Declares item p := by
  refine ⟨splitItems {} text, ?_, ?_, ?_⟩
  · intro other
    rw [cutInto_iff, eq_comm]
  · intro ps
    exact parseList_eq_ok_iff
  · intro e h
    exact parseList_eq_error h

end Param

end ScriptScan
