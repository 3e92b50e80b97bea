import ScriptScan.Proofs.Param.Grammar

/-!
# Printed parameter lists

A parameter list that has been read is written with each item in one form: the modifiers in a fixed
order and letter case, a dollar sign before the name, one space around the equals sign and one
behind each comma. The default values are written as they stood in the items. Of all this only the
default values hold quotes, brackets and commas, and these come in the order in which they were
read, so the list is cut where the text was.

* `Declarable.declares_display` — what is printed for a parameter declares it.
* `items_displayList` — what is printed for some parameters is cut into what is printed for each.
* `parseList_displayList` — what is printed for the parameters of a text is read as these.
-/

namespace ScriptScan

namespace Param

variable {c : Char} {t text item head name : Text} {pieces : List Text} {p : Param}
  {ps : List Param} {ms : List Modifier}

/-! ## Items -/

theorem isMark_of_isHeadChar (h : isHeadChar c = true) : isMark c = false := by
  rw [Bool.eq_false_iff]
  intro hmark
  simp only [isMark, isQuote, Bool.or_eq_true, beq_iff_eq, List.contains_iff_mem, List.mem_cons,
    List.not_mem_nil, or_false] at hmark
  rcases hmark with (rfl | rfl) | rfl | rfl | rfl | rfl | rfl | rfl | rfl <;>
    exact absurd h (by decide)

theorem marks_of_blank (h : t.isBlankText = true) : t.marks = [] := by
  apply Text.marks_eq_nil
  intro c hc
  apply isMark_of_isHeadChar
  simp [isHeadChar, List.all_eq_true.1 h c hc]

theorem marks_trim (t : Text) : t.trim.marks = t.marks := by
  rcases Text.exists_trimStart t with ⟨front, hfront, hstart⟩
  rcases Text.exists_trimEnd t.trimStart with ⟨back, hback, hend⟩
  rw [hend] at hstart
  conv => rhs; rw [hstart]
  rw [Text.marks_append, Text.marks_append, marks_of_blank hfront, marks_of_blank hback,
    List.append_nil, List.nil_append, Text.trim]

theorem IsHead.marks_eq_nil (h : IsHead head ms name) : head.marks = [] := by
  apply Text.marks_eq_nil
  intro c hc
  exact isMark_of_isHeadChar (h.forall_isHeadChar c hc)

/-- The modifiers of a parameter, in the order in which they are printed. -/
def modifiers (p : Param) : List Modifier :=
  (if p.byRef then [.byRef] else []) ++ if p.isConst then [.const] else []

/-- What is printed before a default value. -/
def displayHead (p : Param) : Text :=
  (if p.byRef then "ByRef ".toList else []) ++ (if p.isConst then "Const ".toList else []) ++
    p.var.display

theorem contains_modifiers (p : Param) :
    p.modifiers.contains .byRef = p.byRef ∧ p.modifiers.contains .const = p.isConst := by
  rcases p with ⟨var, byRef, isConst, default?⟩
  cases byRef <;> cases isConst <;> exact ⟨rfl, rfl⟩

theorem SpellsModifiers.append {front back : Text} {ns : List Modifier}
    (hfront : SpellsModifiers front ms) (hback : SpellsModifiers back ns) :
    SpellsModifiers (front ++ back) (ms ++ ns) := by
  induction hfront with
  | nil => exact hback
  | cons hword hne hgap hfront ih =>
    rw [List.append_assoc, List.append_assoc, List.cons_append]
    exact .cons hword hne hgap ih

theorem spellsModifiers_space {m : Modifier} {word : Text} (h : word.Spells m.word) :
    SpellsModifiers (word ++ [' ']) [m] :=
  .cons h (List.cons_ne_nil ' ' []) (by decide) .nil

theorem isHead_displayHead (h : IsIdentifier p.var.name) :
    IsHead p.displayHead p.modifiers p.var.name := by
  have hbyRef : SpellsModifiers (if p.byRef then "ByRef ".toList else [])
      (if p.byRef then [.byRef] else []) := by
    split
    · have hword : Text.Spells "ByRef".toList Modifier.byRef.word := by decide
      exact spellsModifiers_space hword
    · exact .nil
  have hconst : SpellsModifiers (if p.isConst then "Const ".toList else [])
      (if p.isConst then [.const] else []) := by
    split
    · have hword : Text.Spells "Const".toList Modifier.const.word := by decide
      exact spellsModifiers_space hword
    · exact .nil
  have hnodup : p.modifiers.Nodup := by
    unfold modifiers
    cases p.byRef <;> cases p.isConst <;> decide
  exact .mk (hbyRef.append hconst) hnodup (.inr rfl) h

theorem display_of_required (h : p.default? = none) : p.display = p.displayHead := by
  rw [display, h]
  exact List.append_nil _

theorem display_of_optional {value : Text} (h : p.default? = some value) :
    p.display = p.displayHead ++ [' '] ++ '=' :: ' ' :: value := by
  rw [display, h, List.append_assoc p.displayHead]
  rfl

theorem IsHead.isFirst (h : IsHead head ms name) : Literal.IsFirst '=' (head ++ [' ']) := by
  have hplain : ∀ c ∈ head ++ [' '], isHeadChar c = true := by
    intro c hc
    rcases List.mem_append.1 hc with hc | hc
    · exact h.forall_isHeadChar c hc
    · rw [List.mem_singleton.1 hc]
      decide
  apply Literal.isFirst_of_plain
  · intro c hc
    have hmark := isMark_of_isHeadChar (hplain c hc)
    rw [isMark, Bool.or_eq_false_iff] at hmark
    exact hmark.1
  · intro hc
    exact absurd (hplain '=' hc) (by decide)

/-- Whether a parameter can be declared: it has a name that can be read, and its default value is not
empty and has no white space at its ends. -/
structure Declarable (p : Param) : Prop where
  name : IsIdentifier p.var.name
  default_trim : ∀ value, p.default? = some value → value.trim = value
  default_ne_nil : ∀ value, p.default? = some value → value ≠ []

theorem Declares.declarable (h : Declares item p) : p.Declarable := by
  cases h with
  | required hhead =>
    rcases hhead with ⟨-, -, -, hname⟩
    constructor
    · exact hname
    · intro value hdefault
      cases hdefault
    · intro value hdefault
      cases hdefault
  | @optional _ _ value _ _ hhead hgap hfirst hvalue =>
    rcases hhead with ⟨-, -, -, hname⟩
    constructor
    · exact hname
    · rintro _ ⟨rfl⟩
      exact Text.trim_trim value
    · rintro _ ⟨rfl⟩ hnil
      rw [Text.isBlankText_of_trim_eq_nil hnil] at hvalue
      cases hvalue

/-- The quotes, brackets and commas of an item are those of its default value. -/
theorem Declares.marks_eq (h : Declares item p) : item.marks = (p.default?.getD []).marks := by
  cases h with
  | required hhead => exact hhead.marks_eq_nil
  | @optional head gap value _ _ hhead hgap hfirst hvalue =>
    have hequals : Text.marks ('=' :: value) = value.marks := rfl
    rw [Option.getD_some, Text.marks_append, Text.marks_append, hhead.marks_eq_nil,
      marks_of_blank hgap, hequals, marks_trim]
    rfl

theorem Declarable.marks_display (h : p.Declarable) :
    p.display.marks = (p.default?.getD []).marks := by
  have hhead := isHead_displayHead h.name
  cases hdefault : p.default? with
  | none =>
    rw [display_of_required hdefault]
    exact hhead.marks_eq_nil
  | some value =>
    rw [display_of_optional hdefault, Text.marks_append, Text.marks_append, hhead.marks_eq_nil]
    rfl

theorem Declarable.trim_display (h : p.Declarable) : p.display.trim = p.display := by
  have hhead := isHead_displayHead h.name
  cases hdefault : p.default? with
  | none =>
    rw [display_of_required hdefault]
    exact hhead.trim_eq_self
  | some value =>
    have htrim := Text.trim_append_append hhead.trim_eq_self hhead.ne_nil
      (h.default_trim value hdefault) (h.default_ne_nil value hdefault) " = ".toList
    rw [display_of_optional hdefault]
    simpa using htrim

/-- A parameter that can be declared is printed as an item that declares it. -/
theorem Declarable.declares_display (h : p.Declarable) : Declares p.display p := by
  have hhead := isHead_displayHead h.name
  rcases contains_modifiers p with ⟨hbyRef, hconst⟩
  cases hdefault : p.default? with
  | none =>
    have hdeclares := Declares.required hhead
    rw [hbyRef, hconst, ← hdefault] at hdeclares
    rw [display_of_required hdefault]
    exact hdeclares
  | some value =>
    have hspaced : Text.trim (' ' :: value) = value :=
      Text.trim_cons_blank (by decide) (h.default_trim value hdefault)
    have hvalue : Text.isBlankText (' ' :: value) = false := by
      rw [Text.isBlankText, List.all_cons, ← Text.isBlankText,
        Text.isBlankText_of_trimmed (h.default_trim value hdefault)
          (h.default_ne_nil value hdefault)]
      exact Bool.and_false _
    have hdeclares := Declares.optional hhead (by decide) hhead.isFirst hvalue
    rw [hbyRef, hconst, hspaced, ← hdefault] at hdeclares
    rw [display_of_optional hdefault]
    exact hdeclares

/-! ## Lists -/

/-- The pieces of a printed list. -/
def spaced : List Text → List Text
  | [] => []
  | d :: ds => d :: ds.map (' ' :: ·)

theorem commaList_eq (ds : List Text) : Text.commaList ds = [','].intercalate (spaced ds) := by
  cases ds with
  | nil => rfl
  | cons d ds =>
    rw [spaced, Text.commaList]
    induction ds generalizing d with
    | nil => simp
    | cons e ds ih =>
      rw [List.intercalate_cons_cons, ih, List.map_cons, List.intercalate_cons_cons]
      -- the space is the first character of the next piece
      cases ds with
      | nil => simp
      | cons f ds => simp [List.intercalate_cons_cons]

theorem marks_spaced (ds : List Text) : (spaced ds).map Text.marks = ds.map Text.marks := by
  have hspace : Text.marks ∘ (' ' :: ·) = Text.marks := rfl
  cases ds with
  | nil => rfl
  | cons d ds => rw [spaced, List.map_cons, List.map_map, hspace, List.map_cons]

theorem trim_spaced {ds : List Text} (h : ∀ d ∈ ds, d.trim = d) :
    (spaced ds).map Text.trim = ds := by
  cases ds with
  | nil => rfl
  | cons d ds =>
    rcases List.forall_mem_cons.1 h with ⟨hd, hds⟩
    have hspace : ∀ e ∈ ds, Text.trim (' ' :: e) = e := by
      intro e he
      exact Text.trim_cons_blank (by decide) (hds e he)
    have htail : (ds.map (' ' :: ·)).map Text.trim = ds := by
      rw [List.map_map]
      exact (List.map_congr_left hspace).trans (List.map_id ds)
    rw [spaced, List.map_cons, hd, htail]

theorem forall_declarable (h : List.Forall₂ Declares pieces ps) : ∀ p ∈ ps, p.Declarable := by
  induction h with
  | nil => exact List.forall_mem_nil _
  | cons hp hps ih => exact List.forall_mem_cons.2 ⟨hp.declarable, ih⟩

theorem marks_eq_of_forall₂ (h : List.Forall₂ Declares pieces ps) :
    (ps.map display).map Text.marks = pieces.map Text.marks := by
  induction h with
  | nil => rfl
  | cons hp hps ih =>
    simp only [List.map_cons, hp.declarable.marks_display, hp.marks_eq, ih]

/-- What is printed for the parameters of some items is cut into what is printed for each. -/
theorem items_displayList (h : List.Forall₂ Declares (items text) ps) :
    items (displayList ps) = ps.map display := by
  have htrim : ∀ d ∈ ps.map display, d.trim = d := by
    intro d hd
    rcases List.mem_map.1 hd with ⟨p, hp, rfl⟩
    exact (forall_declarable h p hp).trim_display
  -- white space, modifiers and names have been exchanged, but no quotes, brackets or commas
  have hmarks : (spaced (ps.map display)).map Text.marks =
      (splitItems {} text).map Text.marks := by
    rw [marks_spaced, marks_eq_of_forall₂ h, items, List.map_map]
    exact List.map_congr_left fun piece _ => marks_trim piece
  have hclosed : Closed {} (spaced (ps.map display)) :=
    closed_congr Literal.proper_outside hmarks (closed_splitItems {} text)
  rw [items, displayList, commaList_eq, splitItems_join hclosed, trim_spaced htrim]

theorem forall₂_display (h : ∀ p ∈ ps, p.Declarable) :
    List.Forall₂ Declares (ps.map display) ps := by
  rw [List.forall₂_map_left_iff, List.forall₂_same]
  intro p hp
  exact (h p hp).declares_display

/-- What is printed for the parameters that were read is read as the same parameters. -/
theorem parseList_displayList (h : parseList text = .ok ps) :
    parseList (displayList ps) = .ok ps := by
  rw [parseList_eq_ok_iff] at h ⊢
  rcases h with ⟨-, rfl⟩ | hforall
  · left
    exact ⟨rfl, rfl⟩
  · right
    rw [items_displayList hforall]
    exact forall₂_display (forall_declarable hforall)

/-- Parameters with a name that is a word for a modifier, and with default values in which brackets
do not match, commas and equals signs stand, and a quote is never closed. -/
def oddParams : List Param :=
  [⟨⟨"byref".toList⟩, false, false, none⟩, ⟨⟨"Const".toList⟩, true, true, some "[1,2))".toList⟩,
    ⟨⟨['b']⟩, false, false, some "\"p,q\" == (\x7b ,c = 'x, y".toList⟩]

theorem parseList_displayList_sample :
    parseList " byref,BYREF\tconst Const=[1,2)) ,b  =\"p,q\" == (\x7b ,c = 'x, y ".toList =
        .ok oddParams ∧
      displayList oddParams =
        "$byref, ByRef Const $Const = [1,2)), $b = \"p,q\" == (\x7b ,c = 'x, y".toList ∧
      parseList (displayList oddParams) = .ok oddParams := by
  have hread :
      parseList " byref,BYREF\tconst Const=[1,2)) ,b  =\"p,q\" == (\x7b ,c = 'x, y ".toList =
        .ok oddParams := by
    decide +kernel
  exact ⟨hread, by decide, parseList_displayList hread⟩

end Param

end ScriptScan
