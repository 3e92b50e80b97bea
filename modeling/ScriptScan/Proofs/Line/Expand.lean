import ScriptScan.Line.Expand

/-!
# Cases of the block form

A line is blank, a one-line if, a one-line function, or none of these. What `expand` answers is said
here once for each of the four (`expand_of_blank`, `expand_of_if`, `expand_of_func`,
`expand_of_plain`), and `expand_induction` is the induction along them: what is governed comes
before the line that governs it. Nothing behind this module opens `expand`. The one thing that can
be wrong with a line is that it is a one-line function in strict mode (`expand_eq_error`).
-/

namespace ScriptScan

variable {strict : Bool} {line header stmt decl body : Text}

/-! ## The four kinds of lines -/

/-- A text in which something is found is not empty. -/
theorem Text.isEmpty_eq_false {α : Type} {f : Text → Option α} {t : Text} {a : α}
    (hnil : f [] = none) (h : f t = some a) : t.isEmpty = false := by
  cases t with
  | nil =>
    rw [hnil] at h
    cases h
  | cons c t => rfl

theorem expand_of_blank (h : line.trim = []) : expand strict line = .ok [] := by
  rw [expand]
  simp [h]

/-- A one-line if becomes its header, the block form of its statement and a closing line. -/
theorem expand_of_if (h : line.trim.splitOneLineIf? = some (header, stmt)) :
    expand strict line =
      (expand strict stmt).map fun inner => header :: inner ++ ["endif".toList] := by
  have hne : line.trim.isEmpty = false :=
    Text.isEmpty_eq_false (f := Text.splitOneLineIf?) rfl h
  rw [expand]
  simp only [hne, Bool.false_eq_true, if_false]
  split
  · rename_i header' stmt' h'
    rw [h] at h'
    cases h'
    cases expand strict stmt <;> rfl
  · rename_i h'
    rw [h] at h'
    cases h'

/-- A one-line function becomes its declaration, the block form of its body and a closing line,
unless the mode is strict. -/
theorem expand_of_func (hif : line.trim.splitOneLineIf? = none)
    (h : line.trim.splitOneLineFunc? = some (decl, body)) :
    expand strict line =
      if strict then .error .oneLineFunc
      else (expand strict body).map fun inner => decl.trim :: inner ++ ["endfunc".toList] := by
  have hne : line.trim.isEmpty = false :=
    Text.isEmpty_eq_false (f := Text.splitOneLineFunc?) rfl h
  rw [expand]
  simp only [hne, Bool.false_eq_true, if_false]
  split
  · rename_i header' stmt' h'
    rw [hif] at h'
    cases h'
  · split
    · rename_i decl' body' h'
      rw [h] at h'
      cases h'
      cases strict with
      | true => rfl
      | false => cases expand false body <;> rfl
    · rename_i h'
      rw [h] at h'
      cases h'

/-- Any other line stays as it is. -/
theorem expand_of_plain (hne : line.trim ≠ []) (hif : line.trim.splitOneLineIf? = none)
    (hfunc : line.trim.splitOneLineFunc? = none) : expand strict line = .ok [line.trim] := by
  have hne' : line.trim.isEmpty = false := by simpa using hne
  rw [expand]
  simp only [hne', Bool.false_eq_true, if_false]
  split
  · rename_i header' stmt' h'
    rw [hif] at h'
    cases h'
  · split
    · rename_i decl' body' h'
      rw [hfunc] at h'
      cases h'
    · rfl

/-! ## Induction -/

/-- What holds of blank lines and of lines that stay as they are, and of a one-line form if it holds
of what is governed, holds of every line. -/
@[elab_as_elim]
theorem expand_induction {P : Text → Prop}
    (blank : ∀ line, line.trim = [] → P line)
    (oneLineIf : ∀ line header stmt, line.trim.splitOneLineIf? = some (header, stmt) →
      P stmt → P line)
    (oneLineFunc : ∀ line decl body, line.trim.splitOneLineIf? = none →
      line.trim.splitOneLineFunc? = some (decl, body) → P body → P line)
    (plain : ∀ line, line.trim ≠ [] → line.trim.splitOneLineIf? = none →
      line.trim.splitOneLineFunc? = none → P line)
    (line : Text) : P line := by
  -- what is governed is shorter than the line
  induction hlen : line.length using Nat.strongRecOn generalizing line with
  | ind n ih =>
    subst hlen
    by_cases hblank : line.trim = []
    · exact blank line hblank
    · cases hif : line.trim.splitOneLineIf? with
      | some cut =>
        obtain ⟨header, stmt⟩ := cut
        have hshort := Text.length_of_splitOneLineIf? hif
        have htrim := Text.length_trim_le line
        exact oneLineIf line header stmt hif (ih stmt.length (by omega) stmt rfl)
      | none =>
        cases hfunc : line.trim.splitOneLineFunc? with
        | some cut =>
          obtain ⟨decl, body⟩ := cut
          have hshort := Text.length_of_splitOneLineFunc? hfunc
          have htrim := Text.length_trim_le line
          exact oneLineFunc line decl body hif hfunc (ih body.length (by omega) body rfl)
        | none => exact plain line hblank hif hfunc

/-! ## Faults -/

theorem map_eq_ok {ε α β : Type} {g : α → β} {r : Except ε α} {b : β} (h : r.map g = .ok b) :
    ∃ a, r = .ok a ∧ g a = b := by
  cases r with
  | error e => cases h
  | ok a => exact ⟨a, rfl, Except.ok.inj h⟩

theorem map_eq_error {ε α β : Type} {g : α → β} {r : Except ε α} {e : ε}
    (h : r.map g = .error e) : r = .error e := by
  cases r with
  | error e' =>
    cases h
    rfl
  | ok a => cases h

theorem expand_eq_error {cause : Cause} (h : expand strict line = .error cause) :
    strict = true ∧ cause = .oneLineFunc := by
  induction line using expand_induction with
  | blank line hblank =>
    rw [expand_of_blank hblank] at h
    cases h
  | oneLineIf line header stmt hif ih =>
    rw [expand_of_if hif] at h
    exact ih (map_eq_error h)
  | oneLineFunc line decl body hif hfunc ih =>
    rw [expand_of_func hif hfunc] at h
    cases strict with
    | true => exact ⟨rfl, (Except.error.inj h).symm⟩
    | false => exact ih (map_eq_error h)
  | plain line hne hif hfunc =>
    rw [expand_of_plain hne hif hfunc] at h
    cases h

end ScriptScan
