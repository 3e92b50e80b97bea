import ScriptScan.Script
import ScriptScan.Proofs.Func.LineTable

/-!
# Functions without places

Where the lines of a function stand is written into spans. The content of a function is all that it
holds except for those: in particular its lines become texts, in the order in which they are read
back. A line or a label that comes behind the lines of a function (`FuncDecl.Precedes`) goes to the
end of its content.
-/

namespace ScriptScan

/-! ## Functions -/

/-- What a function holds, without places. -/
structure FuncContent where
  name : Text
  script : Path
  params : List Param
  isVolatile : Bool
  body : List Text
  /-- The labels: the script, the function and the name of each, the last two as keys. -/
  labels : List (Path × Text × Text)
deriving DecidableEq, Repr

namespace FuncContent

def addText (f : FuncContent) (text : Text) : FuncContent :=
  { f with body := f.body ++ [text] }

def addLabel (f : FuncContent) (name : Text) : FuncContent :=
  { f with
    body := f.body ++ [[]]
    labels := f.labels ++ [(f.script, f.name.key, name.key)] }

end FuncContent

namespace FuncDecl

variable {f f' : FuncDecl} {l l' : LogicalLine}

def content (f : FuncDecl) : FuncContent where
  name := f.name
  script := f.script
  params := f.params
  isVolatile := f.isVolatile
  body := f.body.map (·.text)
  labels := f.labels.map fun label => (label.script, label.func, label.name)

/-- Whether a line stands at the last line of a function or behind it. -/
def Precedes (f : FuncDecl) (l : LogicalLine) : Prop :=
  ∀ g, f.table.groups.head? = some g → LineTable.ComesAt g.1 l

theorem precedes_of_empty (h : f.table = {}) (l : LogicalLine) : f.Precedes l := by
  intro g hg
  rw [h] at hg
  cases hg

theorem content_addLine (h : f.Precedes l) : (f.addLine l).content = f.content.addText l.text := by
  have hlines := (LineTable.lines_add h).1
  simp [content, body, addLine, hlines, FuncContent.addText]

theorem content_addLabel {name : Text} (h : f.Precedes l) :
    (f.addLabel name l.span).content = f.content.addLabel name := by
  have hlines := (LineTable.lines_add (l := ⟨[], l.span⟩) h).1
  simp [content, body, addLabel, addLine, hlines, FuncContent.addLabel]

/-- What comes behind a line comes behind the function that it is added to. -/
theorem Precedes.addLine (h : f.Precedes l) (hl : LineTable.ComesAt l.span l') :
    (f.addLine l).Precedes l' := by
  intro g hg
  have hhead := (LineTable.lines_add h).2
  have hspan : g.1 = l.span := by
    rw [FuncDecl.addLine] at hg
    simpa [hg] using hhead
  rw [hspan]
  exact hl

theorem Precedes.addLabel {name : Text} (h : f.Precedes l) (hl : LineTable.ComesAt l.span l') :
    (f.addLabel name l.span).Precedes l' :=
  Precedes.addLine (f := { f with labels := _ }) (l := ⟨[], l.span⟩) h hl

/-- Whether a function has a label is told by its content. -/
theorem isSome_label? (h : f.content = f'.content) (name : Text) :
    (f.label? name).isSome = (f'.label? name).isSome := by
  have hany : ∀ f : FuncDecl,
      (f.label? name).isSome = f.content.labels.any (·.2.2 == name.key) := by
    intro f
    simp [label?, content, List.isSome_find?, List.any_map, Function.comp_def]
  rw [hany, hany, h]

end FuncDecl

/-! ## Lookups -/

theorem cases_of_isSome_eq {α β : Type} {a : Option α} {b : Option β} (h : a.isSome = b.isSome) :
    (a = none ∧ b = none) ∨ ∃ x y, a = some x ∧ b = some y := by
  cases a with
  | none =>
    cases b with
    | none => exact .inl ⟨rfl, rfl⟩
    | some y => cases h
  | some x =>
    cases b with
    | none => cases h
    | some y => exact .inr ⟨x, y, rfl, rfl⟩

theorem isSome_eq_of_eq_none_iff {α β : Type} {a : Option α} {b : Option β}
    (h : a = none ↔ b = none) : a.isSome = b.isSome := by
  rw [Bool.eq_iff_iff, ← Option.ne_none_iff_isSome, ← Option.ne_none_iff_isSome]
  exact not_congr h

theorem lookup_eq_none_iff_keys {α : Type} {table : List (Text × α)} {key : Text} :
    table.lookup key = none ↔ key ∉ table.map (·.1) := by
  rw [List.lookup_eq_none_iff, List.mem_map]
  constructor
  · rintro hne ⟨e, he, rfl⟩
    have hself := hne e he
    simp at hself
  · intro hmem e he
    rw [bne_iff_ne]
    rintro rfl
    exact hmem ⟨e, he, rfl⟩

/-! ## Tables of functions -/

/-- The functions of a table without places; a function of the host has no content. -/
def FuncTable.content (t : FuncTable) : List (Text × Option FuncContent) :=
  t.map fun (key, f) => (key, f.decl?.map (·.content))

theorem FuncTable.content_insertNew {t t' : FuncTable} (h : t.content = t'.content) (f : Func) :
    (t.insertNew f).content = (t'.insertNew f).content := by
  have hkeys : t.map (·.1) = t'.map (·.1) := by
    have hall := congrArg (List.map (·.1)) h
    simpa [content, Function.comp_def] using hall
  have hsome : (t.lookup f.key).isSome = (t'.lookup f.key).isSome := by
    refine isSome_eq_of_eq_none_iff ?_
    rw [lookup_eq_none_iff_keys, lookup_eq_none_iff_keys, hkeys]
  unfold insertNew
  rw [hsome]
  by_cases htaken : (t'.lookup f.key).isSome = true
  · rw [if_pos htaken, if_pos htaken, h]
  · have happend : ∀ t : FuncTable, content (t ++ [(f.key, f)]) =
        t.content ++ [(f.key, f.decl?.map (·.content))] := by
      intro t
      simp [content]
    rw [if_neg htaken, if_neg htaken, happend, happend, h]

end ScriptScan
