import Mathlib.Data.List.Induction
import ScriptScan.Script.Outline

/-!
# Parameter rules

A parameter list must not name a variable twice, must not give a default to what is passed by
reference, and must not go on without defaults behind a default (`Param.WellFormed`). Each rule is
one about a parameter and those before it, and each fault names the first parameter that breaks a
rule: first of all one that repeats a name (`Param.Repeats`), and only if there is none, one that
breaks another rule (`Param.Breaks`).

`FirstAt` says what it means to be first. The two searches of `Param.check` are searches for the
first parameter in this sense (`Param.firstRepeated?_iff`, `Param.firstMisplaced?_iff`), so
`Param.check_eq_some_iff` and `Param.check_eq_none_iff` speak of rules alone.
-/

namespace ScriptScan

/-! ## The first entry of a list -/

/-- Whether the first entry of a list for which something holds, with what stands before it, gives
`b`. -/
def FirstAt {α β : Type} (R : List α → α → β → Prop) (xs : List α) (b : β) : Prop :=
  ∃ pre x post, xs = pre ++ x :: post ∧ R pre x b ∧
    ∀ front y back, pre = front ++ y :: back → ∀ b', ¬R front y b'

namespace FirstAt

variable {α β : Type} {R : List α → α → β → Prop} {x : α} {xs : List α} {b : β}

theorem not_nil : ¬FirstAt R [] b := by
  rintro ⟨pre, x, post, heq, -⟩
  simp at heq

/-- The first entry is the head, or it is the first one behind a head for which nothing holds. -/
theorem cons_iff :
    FirstAt R (x :: xs) b ↔
      R [] x b ∨ (∀ b', ¬R [] x b') ∧ FirstAt (fun pre => R (x :: pre)) xs b := by
  constructor
  · rintro ⟨pre, y, post, heq, hy, hfirst⟩
    cases pre with
    | nil =>
      cases heq
      exact .inl hy
    | cons z pre =>
      cases heq
      refine .inr ⟨hfirst [] x pre rfl, pre, y, post, rfl, hy, ?_⟩
      rintro front w back rfl
      exact hfirst (x :: front) w back rfl
  · rintro (hx | ⟨hx, pre, y, post, rfl, hy, hfirst⟩)
    · exact ⟨[], x, xs, rfl, hx, by simp⟩
    · refine ⟨x :: pre, y, post, rfl, hy, ?_⟩
      intro front w back heq
      cases front with
      | nil =>
        cases heq
        exact hx
      | cons z front =>
        cases heq
        exact hfirst front w back rfl

/-- If what holds of the head can be computed, this decides whether the head is the first entry. -/
theorem cons_iff_of_computed {o : Option β} (ho : ∀ b, R [] x b ↔ o = some b) :
    FirstAt R (x :: xs) b ↔
      o = some b ∨ o = none ∧ FirstAt (fun pre => R (x :: pre)) xs b := by
  have hnone : (∀ b, ¬R [] x b) ↔ o = none := by
    simp only [ho, Option.eq_none_iff_forall_ne_some, ne_eq]
  rw [cons_iff, ho, hnone]

/-- There is a first entry exactly if there is one at all. -/
theorem exists_iff :
    (∃ b, FirstAt R xs b) ↔ ∃ pre x post b, xs = pre ++ x :: post ∧ R pre x b := by
  constructor
  · rintro ⟨b, pre, x, post, heq, hx, -⟩
    exact ⟨pre, x, post, b, heq, hx⟩
  · rintro ⟨pre, x, post, b, rfl, hx⟩
    induction pre generalizing R with
    | nil => exact ⟨b, cons_iff.2 (.inl hx)⟩
    | cons y pre ih =>
      by_cases hy : ∃ b', R [] y b'
      · obtain ⟨b', hb'⟩ := hy
        exact ⟨b', cons_iff.2 (.inl hb')⟩
      · obtain ⟨b', hb'⟩ := ih (R := fun pre => R (y :: pre)) hx
        exact ⟨b', cons_iff.2 (.inr ⟨not_exists.1 hy, hb'⟩)⟩

end FirstAt

/-- A relation between all entries and later ones is one between each entry and those before it. -/
theorem pairwise_iff_before {α : Type} {R : α → α → Prop} {xs : List α} :
    xs.Pairwise R ↔ ∀ pre x post, xs = pre ++ x :: post → ∀ y ∈ pre, R y x := by
  constructor
  · rintro h pre x post rfl y hy
    exact (List.pairwise_append.1 h).2.2 y hy x List.mem_cons_self
  · intro h
    induction xs using List.reverseRecOn with
    | nil => exact .nil
    | append_singleton xs x ih =>
      refine List.pairwise_append.2 ⟨ih ?_, List.pairwise_singleton R x, ?_⟩
      · rintro pre y post rfl
        exact h pre y (post ++ [x]) (by simp)
      · intro y hy z hz
        rw [List.mem_singleton.1 hz]
        exact h xs x [] rfl y hy

namespace Param

variable {pre ps before : List Param} {p : Param} {c : Cause}

/-! ## The rules -/

/-- Whether a parameter list keeps the rules: no name stands twice in it, nothing that is passed by
reference has a default, and what stands behind a default has one too. -/
structure WellFormed (ps : List Param) : Prop where
  distinct : ps.Pairwise fun p q => p.var.same q.var = false
  byRef_required : ∀ p ∈ ps, ¬(p.byRef = true ∧ p.isOptional = true)
  required_first : ps.Pairwise fun p q => p.isOptional = true → q.isOptional = true

/-- Whether a parameter, behind some others, has the name of one of them. -/
inductive Repeats (pre : List Param) (p : Param) : Cause → Prop where
  | intro (q : Param) (hq : q ∈ pre) (hsame : q.var.same p.var = true) :
      Repeats pre p (.duplicateParam p.var)

/-- Whether a parameter, behind some others, breaks a rule that is not about names. -/
inductive Breaks (pre : List Param) (p : Param) : Cause → Prop where
  | byRefDefault (href : p.byRef = true) (hopt : p.isOptional = true) :
      Breaks pre p (.byRefDefault p.var)
  | missingDefault (hreq : p.isOptional = false) (q : Param) (hq : q ∈ pre)
      (hopt : q.isOptional = true) : Breaks pre p (.missingDefault (pre.length + 1) p.var)

/-- The names are distinct if no parameter repeats one. -/
theorem distinct_iff :
    (ps.Pairwise fun p q => p.var.same q.var = false) ↔ ¬∃ c, FirstAt Repeats ps c := by
  rw [pairwise_iff_before, FirstAt.exists_iff]
  constructor
  · rintro h ⟨pre, p, post, c, heq, ⟨q, hq, hsame⟩⟩
    rw [h pre p post heq q hq] at hsame
    cases hsame
  · intro h pre p post heq q hq
    rw [Bool.eq_false_iff]
    intro hsame
    exact h ⟨pre, p, post, _, heq, .intro q hq hsame⟩

/-- A list keeps the rules if no parameter of it breaks one. -/
theorem wellFormed_iff :
    WellFormed ps ↔ (¬∃ c, FirstAt Repeats ps c) ∧ ¬∃ c, FirstAt Breaks ps c := by
  rw [← distinct_iff, FirstAt.exists_iff]
  constructor
  · rintro ⟨hdistinct, hbyRef, hordered⟩
    refine ⟨hdistinct, ?_⟩
    rintro ⟨pre, p, post, c, rfl, hbreaks⟩
    cases hbreaks with
    | byRefDefault href hopt => exact hbyRef p (by simp) ⟨href, hopt⟩
    | missingDefault hreq q hq hopt =>
      rw [pairwise_iff_before.1 hordered pre p post rfl q hq hopt] at hreq
      cases hreq
  · rintro ⟨hdistinct, hbreaks⟩
    refine ⟨hdistinct, ?_, pairwise_iff_before.2 ?_⟩
    · rintro p hp ⟨href, hopt⟩
      obtain ⟨pre, post, heq⟩ := List.append_of_mem hp
      exact hbreaks ⟨pre, p, post, _, heq, .byRefDefault href hopt⟩
    · intro pre p post heq q hq hopt
      by_contra hreq
      exact hbreaks ⟨pre, p, post, _, heq, .missingDefault (by simpa using hreq) q hq hopt⟩

/-! ## The searches -/

theorem repeats_iff :
    Repeats pre p c ↔
      (if p.var.key ∈ pre.map (·.var.key) then some (.duplicateParam p.var) else none) =
        some c := by
  constructor
  · rintro ⟨q, hq, hsame⟩
    rw [if_pos (List.mem_map.2 ⟨q, hq, beq_iff_eq.1 hsame⟩)]
  · intro h
    split at h
    · rename_i hmem
      obtain ⟨q, hq, hkey⟩ := List.mem_map.1 hmem
      cases h
      exact .intro q hq (beq_iff_eq.2 hkey)
    · cases h

theorem breaks_iff :
    Breaks pre p c ↔
      (if p.byRef && p.isOptional then some (.byRefDefault p.var)
        else if pre.any isOptional && !p.isOptional then
          some (.missingDefault (pre.length + 1) p.var)
        else none) = some c := by
  constructor
  · intro h
    cases h with
    | byRefDefault href hopt => simp [href, hopt]
    | missingDefault hreq q hq hopt =>
      have hany : pre.any isOptional = true := List.any_eq_true.2 ⟨q, hq, hopt⟩
      simp [hreq, hany]
  · intro h
    split at h
    · rename_i hboth
      rw [Bool.and_eq_true] at hboth
      cases h
      exact .byRefDefault hboth.1 hboth.2
    · split at h
      · rename_i hbehind
        rw [Bool.and_eq_true, List.any_eq_true, Bool.not_eq_true'] at hbehind
        obtain ⟨⟨q, hq, hopt⟩, hreq⟩ := hbehind
        cases h
        exact .missingDefault hreq q hq hopt
      · cases h

/-- The search for a repeated name finds the first one. `before` are the parameters whose names have
been seen. -/
theorem firstRepeated?_iff {seen : List Text}
    (hseen : ∀ k, k ∈ seen ↔ k ∈ before.map (·.var.key)) :
    (firstRepeated? seen ps).map (fun p => Cause.duplicateParam p.var) = some c ↔
      FirstAt (fun pre => Repeats (before ++ pre)) ps c := by
  induction ps generalizing before seen with
  | nil => simp [firstRepeated?, FirstAt.not_nil]
  | cons p ps ih =>
    have hseen' : ∀ k, k ∈ p.var.key :: seen ↔ k ∈ (before ++ [p]).map (·.var.key) := by
      intro k
      rw [List.mem_cons, hseen, List.map_append, List.mem_append, List.map_singleton,
        List.mem_singleton, or_comm]
    have hrest := ih hseen'
    simp only [List.append_assoc, List.singleton_append] at hrest
    rw [FirstAt.cons_iff_of_computed (R := fun pre => Repeats (before ++ pre))
      (fun c => repeats_iff), List.append_nil, ← hrest]
    simp only [← hseen]
    by_cases hmem : p.var.key ∈ seen <;> simp [firstRepeated?, hmem]

/-- The search for a parameter that breaks another rule finds the first one. `before` are the
parameters that have been looked at. -/
theorem firstMisplaced?_iff :
    firstMisplaced? (before.any isOptional) (before.length + 1) ps = some c ↔
      FirstAt (fun pre => Breaks (before ++ pre)) ps c := by
  induction ps generalizing before with
  | nil => simp [firstMisplaced?, FirstAt.not_nil]
  | cons p ps ih =>
    have hrest := @ih (before ++ [p])
    simp only [List.append_assoc, List.singleton_append, List.any_append, List.any_cons,
      List.any_nil, Bool.or_false, List.length_append, List.length_singleton] at hrest
    rw [FirstAt.cons_iff_of_computed (R := fun pre => Breaks (before ++ pre))
      (fun c => breaks_iff), List.append_nil, ← hrest]
    cases hboth : p.byRef && p.isOptional with
    | true => simp [firstMisplaced?, hboth]
    | false =>
      cases hbehind : before.any isOptional && !p.isOptional <;>
        simp [firstMisplaced?, hboth, hbehind]

/-! ## The check -/

/-- What is wrong with a list is what is wrong with the first parameter that repeats a name; or, if
none does, with the first one that breaks another rule. -/
theorem check_eq_some_iff :
    check ps = some c ↔
      FirstAt Repeats ps c ∨ (¬∃ c', FirstAt Repeats ps c') ∧ FirstAt Breaks ps c := by
  have hseen : ∀ k : Text, k ∈ [] ↔ k ∈ ([] : List Param).map (·.var.key) := by simp
  have hrepeats : ∀ c, (firstRepeated? [] ps).map (fun p => Cause.duplicateParam p.var) = some c ↔
      FirstAt Repeats ps c := fun c => firstRepeated?_iff hseen
  have hbreaks : firstMisplaced? false 1 ps = some c ↔ FirstAt Breaks ps c :=
    @firstMisplaced?_iff ps [] c
  simp only [← hrepeats, ← hbreaks]
  unfold check
  cases firstRepeated? [] ps <;> simp

theorem check_eq_none_iff : check ps = none ↔ WellFormed ps := by
  rw [wellFormed_iff, Option.eq_none_iff_forall_ne_some]
  simp only [ne_eq, check_eq_some_iff, not_or, not_and, not_exists]
  constructor
  · intro h
    exact ⟨fun c => (h c).1, fun c => (h c).2 fun c' => (h c').1⟩
  · rintro ⟨hrepeats, hbreaks⟩ c
    exact ⟨hrepeats c, fun _ => hbreaks c⟩

/-- The three things that can be wrong with a parameter list. -/
theorem check_cases (h : check ps = some c) :
    (∃ v, c = .duplicateParam v) ∨ (∃ v, c = .byRefDefault v) ∨ ∃ k v, c = .missingDefault k v := by
  rcases check_eq_some_iff.1 h with
    ⟨pre, p, post, -, hrepeats, -⟩ | ⟨-, pre, p, post, -, hbreaks, -⟩
  · cases hrepeats with
    | intro q hq hsame => exact .inl ⟨p.var, rfl⟩
  · cases hbreaks with
    | byRefDefault href hopt => exact .inr (.inl ⟨p.var, rfl⟩)
    | missingDefault hreq q hq hopt => exact .inr (.inr ⟨pre.length + 1, p.var, rfl⟩)

/-! ## Arity -/

/-- A list that keeps the rules is some required parameters, and then some optional ones. -/
theorem WellFormed.exists_split (h : WellFormed ps) :
    ∃ required optional, ps = required ++ optional ∧ (∀ p ∈ required, p.isOptional = false) ∧
      ∀ p ∈ optional, p.isOptional = true := by
  obtain ⟨-, -, hordered⟩ := h
  induction hordered with
  | nil => exact ⟨[], [], rfl, by simp, by simp⟩
  | @cons p ps hp _ ih =>
    cases hopt : p.isOptional with
    | true =>
      -- behind an optional parameter all are optional
      refine ⟨[], p :: ps, rfl, by simp, List.forall_mem_cons.2 ⟨hopt, ?_⟩⟩
      exact fun q hq => hp q hq hopt
    | false =>
      obtain ⟨required, optional, rfl, hrequired, hoptional⟩ := ih
      exact ⟨p :: required, optional, rfl, List.forall_mem_cons.2 ⟨hopt, hrequired⟩, hoptional⟩

end Param

/-- The arity of some required parameters and then some optional ones. -/
theorem Arity.ofParams_split {required optional : List Param}
    (hrequired : ∀ p ∈ required, p.isOptional = false)
    (hoptional : ∀ p ∈ optional, p.isOptional = true) :
    (ofParams (required ++ optional)).min = required.length ∧
      (ofParams (required ++ optional)).max = (required ++ optional).length := by
  have hleast : (required ++ optional).countP (!·.isOptional) = required.length := by
    have hall : required.countP (!·.isOptional) = required.length :=
      List.countP_eq_length.2 fun p hp => by simp [hrequired p hp]
    have hnone : optional.countP (!·.isOptional) = 0 :=
      List.countP_eq_zero.2 fun p hp => by simp [hoptional p hp]
    rw [List.countP_append, hall, hnone, Nat.add_zero]
  refine ⟨hleast, ?_⟩
  exact Nat.max_eq_right List.countP_le_length

end ScriptScan
