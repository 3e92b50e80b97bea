import ScriptScan.Line.Header
import ScriptScan.Fault

/-!
# Block form

Every line is brought into block form: a one-line if becomes its header, the block form of its
statement and a closing line, and so does a one-line function. Blank lines vanish. What is governed
is part of the line and shorter than it, so the forms may be nested to any depth.
-/

namespace ScriptScan

namespace Text

theorem length_trimEnd_le (t : Text) : t.trimEnd.length ≤ t.length := by
  have := (List.dropWhile_suffix isBlank (l := t.reverse)).length_le
  simpa [trimEnd] using this

theorem length_trim_le (t : Text) : t.trim.length ≤ t.length :=
  Nat.le_trans (length_trimEnd_le _) (length_trimStart_le t)

/-- A statement is shorter than the line it is cut from. -/
theorem length_of_splitAtThen? {before t header stmt : Text}
    (h : splitAtThen? before t = some (header, stmt)) : stmt.length < t.length := by
  induction t generalizing before with
  | nil => simp [splitAtThen?] at h
  | cons c t ih =>
    simp only [splitAtThen?] at h
    split at h
    · -- cut at this word: the statement is what follows it, trimmed
      rename_i cut hc
      cases h
      split at hc
      · simp at hc
      · split at hc
        · rename_i word rest hw
          split at hc
          · cases hc
            have hk : dropKeyword? (c :: t) "then".toList = some rest := by
              obtain ⟨r, hr, he⟩ := Option.map_eq_some_iff.1 hw
              cases he
              unfold dropWholeWord? at hr
              split at hr
              · split at hr
                · cases hr; assumption
                · simp at hr
              · simp at hr
            have h4 := length_of_dropKeyword? hk
            have h5 : "then".toList.length = 4 := rfl
            have h6 := length_trim_le rest
            omega
          · simp at hc
        · simp at hc
    · have := ih h
      simp only [List.length_cons]
      omega

theorem length_of_splitOneLineIf? {line header stmt : Text}
    (h : line.splitOneLineIf? = some (header, stmt)) : stmt.length < line.length := by
  unfold splitOneLineIf? at h
  split at h
  · exact length_of_splitAtThen? h
  · simp at h

theorem length_of_readArrow? {t body : Text} (h : t.readArrow? = some body) :
    body.length < t.length := by
  unfold readArrow? at h
  split at h
  · rename_i rest hr
    split at h
    · simp at h
    · cases h
      have h1 := length_trimStart_le rest
      have h2 := length_trimStart_le t
      rw [hr] at h2
      simp only [List.length_cons] at h2
      omega
  · simp at h

theorem length_of_splitAtArrow? {before t decl body : Text}
    (h : splitAtArrow? before t = some (decl, body)) : body.length < t.length := by
  induction t generalizing before with
  | nil => simp [splitAtArrow?] at h
  | cons c t ih =>
    simp only [splitAtArrow?] at h
    split at h
    · rename_i b hb
      cases h
      split at hb
      · have := length_of_readArrow? hb
        simp only [List.length_cons]
        omega
      · simp at hb
    · have := ih h
      simp only [List.length_cons]
      omega

theorem length_of_takeName? {t name rest : Text} (h : t.takeName? = some (name, rest)) :
    rest.length < t.length := by
  cases t with
  | nil => simp [takeName?] at h
  | cons c t =>
    simp only [takeName?] at h
    split at h
    · cases h
      have := (List.dropWhile_suffix isWord (l := t)).length_le
      simp only [List.length_cons]
      omega
    · simp at h

theorem length_of_dropChar? {x : Char} {t rest : Text} (h : t.dropChar? x = some rest) :
    rest.length < t.length := by
  cases t with
  | nil => simp [dropChar?] at h
  | cons c t =>
    simp only [dropChar?] at h
    split at h
    · cases h; simp
    · simp at h

theorem length_of_dropFuncName? {t rest : Text} (h : t.dropFuncName? = some rest) :
    rest.length ≤ t.length := by
  simp only [dropFuncName?, bind, Option.bind_eq_some_iff] at h
  obtain ⟨a, ha, b, hb, ⟨name, c⟩, hc, hd⟩ := h
  have h1 := length_of_dropKeyword? ha
  have h2 := length_of_dropBlanks? hb
  have h3 := length_of_takeName? hc
  have h4 := length_of_dropChar? hd
  have h5 := length_trimStart_le c
  simp only at h4
  omega

theorem length_of_dropFuncLead? {t rest : Text} (h : t.dropFuncLead? = some rest) :
    rest.length ≤ t.length := by
  unfold dropFuncLead? at h
  split at h
  · rename_i mid hm
    simp only [bind, Option.bind_eq_some_iff] at h
    obtain ⟨a, ha, hb⟩ := h
    have h1 := length_of_dropKeyword? hm
    have h2 := length_of_dropBlanks? ha
    have h3 := length_of_dropFuncName? hb
    omega
  · exact length_of_dropFuncName? h

/-- A body is shorter than the line it is cut from. -/
theorem length_of_splitOneLineFunc? {line decl body : Text}
    (h : line.splitOneLineFunc? = some (decl, body)) : body.length < line.length := by
  unfold splitOneLineFunc? at h
  split at h
  · rename_i rest hr
    have h1 := length_of_dropFuncLead? hr
    have h2 := length_of_splitAtArrow? h
    omega
  · simp at h

end Text

/-- The lines of the block form of a line. In strict mode a one-line function is refused. -/
def expand (strict : Bool) (line : Text) : Except Cause (List Text) :=
  let t := line.trim
  if t.isEmpty then .ok []
  else
    match hi : t.splitOneLineIf? with
    | some (header, stmt) =>
      have := Nat.lt_of_lt_of_le (Text.length_of_splitOneLineIf? hi) (Text.length_trim_le line)
      match expand strict stmt with
      | .error e => .error e
      | .ok inner => .ok (header :: inner ++ ["endif".toList])
    | none =>
      match hf : t.splitOneLineFunc? with
      | some (decl, body) =>
        have := Nat.lt_of_lt_of_le (Text.length_of_splitOneLineFunc? hf) (Text.length_trim_le line)
        if strict then .error .oneLineFunc
        else
          match expand strict body with
          | .error e => .error e
          | .ok inner => .ok (decl.trim :: inner ++ ["endfunc".toList])
      | none => .ok [t]
termination_by line.length

end ScriptScan
