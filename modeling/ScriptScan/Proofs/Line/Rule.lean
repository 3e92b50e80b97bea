import ScriptScan.Line.Rule
import ScriptScan.Proofs.Text.Name

/-!
# The rule that has read a line

Each kind of line has one rule, and no rule says anything of another kind. So what a line says is
said by the reader of that one rule (`LineRule.read?_of_classify`). A line that begins a function
gives it a name that begins with a letter or an underscore (`LineRule.isName_of_classify`).
-/

namespace ScriptScan

variable {line : Text} {form : LineForm}

namespace LineForm

/-- The rule that says such a thing. -/
def rule : LineForm → LineRule
  | includeOnce => .includeOnce
  | startupHook _ => .startupHook
  | exitHook _ => .exitHook
  | pragma _ => .pragma
  | func _ => .func
  | endFunc => .endFunc
  | label _ => .label

theorem readFunc?_eq_some {isVolatile : Bool} (h : readFunc? isVolatile line = some form) :
    ∃ hd : FuncHeader, form = .func hd ∧ hd.name.IsName := by
  simp only [readFunc?, bind, Option.bind_eq_some_iff] at h
  rcases h with ⟨a, _, b, _, ⟨name, rest⟩, hname, c, _, hform⟩
  split at hform
  · cases hform
    exact ⟨_, rfl, (Text.takeName?_eq_some hname).1⟩
  · cases hform

theorem readFuncHeader?_eq_some (h : readFuncHeader? line = some form) :
    ∃ hd : FuncHeader, form = .func hd ∧ hd.name.IsName := by
  unfold readFuncHeader? at h
  split at h
  · exact readFunc?_eq_some h
  · exact readFunc?_eq_some h

end LineForm

namespace LineRule

/-- A rule says nothing that another rule is for. -/
theorem rule_of_read? {r : LineRule} (h : r.read? line = some form) : form.rule = r := by
  cases r with
  | includeOnce =>
    rcases Option.map_eq_some_iff.1 h with ⟨_, -, rfl⟩
    rfl
  | startupHook =>
    rcases Option.map_eq_some_iff.1 h with ⟨_, -, rfl⟩
    rfl
  | exitHook =>
    rcases Option.map_eq_some_iff.1 h with ⟨_, -, rfl⟩
    rfl
  | pragma =>
    rcases Option.map_eq_some_iff.1 h with ⟨_, -, rfl⟩
    rfl
  | func =>
    rcases LineForm.readFuncHeader?_eq_some h with ⟨hd, rfl, -⟩
    rfl
  | endFunc =>
    simp only [read?, LineForm.readEndFunc?] at h
    split at h
    · cases h
      rfl
    · cases h
  | label =>
    simp only [read?, LineForm.readLabel?] at h
    split at h
    · split at h
      · cases h
        rfl
      · cases h
    · cases h

theorem read?_of_classify (h : classify line = some form) : form.rule.read? line = some form := by
  rcases List.exists_of_findSome?_eq_some h with ⟨r, -, hr⟩
  rw [rule_of_read? hr]
  exact hr

theorem isName_of_classify {hd : FuncHeader} (h : classify line = some (.func hd)) :
    hd.name.IsName := by
  rcases LineForm.readFuncHeader?_eq_some (read?_of_classify h) with ⟨hd', heq, hname⟩
  cases heq
  exact hname

end LineRule

end ScriptScan
