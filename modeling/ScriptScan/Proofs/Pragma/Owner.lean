import ScriptScan.Proofs.Pragma.Registry

/-!
# One owner for each option

Registration compares the name of a new handler with the names of those before it, and a directive
compares its option with their names. Both comparisons are the same equivalence. So the handlers
that are registered have different names, an option is claimed by one of them at most, and it makes
no difference in which order they stand.

* `PragmaHandler.registerAll_concat` — what one more registration comes to.
* `Directive.Owned` says what a directive and some handlers have to do with each other if no two of
  these share a name; `Directive.owned` derives it.
* `PragmaHandler.one_owner` is the conclusion for every sequence of registrations.
-/

namespace ScriptScan

namespace PragmaHandler

variable {hs hs' : List PragmaHandler} {g h : PragmaHandler} {option : Text}

/-- Whether a name is taken by one of some handlers, in whatever letter case. -/
def Taken (hs : List PragmaHandler) (name : Text) : Prop :=
  ∃ g ∈ hs, Text.sameIgnoringCase g.name name = true

instance (hs : List PragmaHandler) (name : Text) : Decidable (Taken hs name) :=
  inferInstanceAs (Decidable (∃ g ∈ hs, _))

/-! ## Registration -/

theorem register_of_taken (ht : Taken hs h.name) :
    register hs h = .error ⟨.duplicatePragmaHandler h.name, .unknown⟩ :=
  if_pos (List.any_eq_true.2 ht)

theorem register_of_not_taken (ht : ¬Taken hs h.name) : register hs h = .ok (hs ++ [h]) :=
  if_neg fun hany => ht (List.any_eq_true.1 hany)

/-- One more registration is refused if the name is taken, and then nothing changes; otherwise the
handler is put behind the others. -/
theorem registerAll_concat (hs given : List PragmaHandler) (h : PragmaHandler) :
    registerAll hs (given ++ [h]) =
      if Taken (registerAll hs given).1 h.name then
        ((registerAll hs given).1,
          (registerAll hs given).2 ++ [some ⟨.duplicatePragmaHandler h.name, .unknown⟩])
      else ((registerAll hs given).1 ++ [h], (registerAll hs given).2 ++ [none]) := by
  induction given generalizing hs with
  | nil =>
    by_cases ht : Taken hs h.name
    · simp [registerAll, register_of_taken ht, ht]
    · simp [registerAll, register_of_not_taken ht, ht]
  | cons g given ih =>
    -- whatever the first answer is, it stands before the others
    rw [List.cons_append, registerAll, registerAll]
    cases hr : register hs g with
    | ok hs' =>
      simp only [ih hs']
      split <;> rfl
    | error f =>
      simp only [ih hs]
      split <;> rfl

theorem apart_iff :
    Apart hs ↔ hs.Pairwise fun g h => Text.sameIgnoringCase g.name h.name = false :=
  Iff.rfl

theorem Apart.perm (ha : Apart hs) (hp : hs'.Perm hs) : Apart hs' := by
  refine (hp.pairwise_iff ?_).2 ha
  intro g h hgh
  rw [claims, Text.sameIgnoringCase_comm]
  exact hgh

/-! ## Claims -/

/-- The handler that is found for an option is the one that claims it. -/
theorem Apart.find?_eq_some_iff (ha : Apart hs) :
    hs.find? (·.claims option) = some h ↔ h ∈ hs ∧ h.claims option = true := by
  constructor
  · intro hfind
    refine ⟨List.mem_of_find?_eq_some hfind, ?_⟩
    exact List.find?_some (p := fun g : PragmaHandler => g.claims option) hfind
  · rintro ⟨hh, hclaims⟩
    exact ha.find? hh hclaims

theorem Apart.find?_perm (ha : Apart hs) (hp : hs'.Perm hs) :
    hs'.find? (·.claims option) = hs.find? (·.claims option) := by
  refine Option.ext fun h => ?_
  rw [ha.find?_eq_some_iff, (ha.perm hp).find?_eq_some_iff, hp.mem_iff]

/-- An option is claimed by one handler at most. -/
theorem Apart.length_claims_le (ha : Apart hs) (option : Text) :
    (hs.filter (·.claims option)).length ≤ 1 := by
  have hfiltered : (hs.filter (·.claims option)).Pairwise fun _ _ => False := by
    rw [List.pairwise_filter]
    refine ha.imp ?_
    intro g h hgh hg hh
    rw [claims, Text.sameIgnoringCase_comm] at hh
    rw [claims, Text.sameIgnoringCase_trans hg hh] at hgh
    cases hgh
  cases hclaims : hs.filter (·.claims option) with
  | nil => exact Nat.zero_le 1
  | cons g rest =>
    rw [hclaims, List.pairwise_cons] at hfiltered
    cases rest with
    | nil => exact Nat.le_refl 1
    | cons h rest => exact (hfiltered.1 h List.mem_cons_self).elim

end PragmaHandler

/-! ## Directives -/

namespace Directive

/-- What a directive and some handlers have to do with each other. One handler at most claims its
option. That one is asked about the key, unless the option belongs to the scanner, and it runs if it
accepts the key; no other one is asked or runs, and what becomes of the directive would be the same
without all the others. It is the same in every order of the handlers. -/
structure Owned (d : Directive) (hs : List PragmaHandler) : Prop where
  claimed : (hs.filter (·.claims d.option)).length ≤ 1
  asked_iff : ∀ h, (d.dispatch hs).asked? = some h ↔
    d.option ≠ compileOption ∧ h ∈ hs ∧ h.claims d.option = true
  ran_iff : ∀ h, (d.dispatch hs).ran? = some h ↔
    (d.dispatch hs).asked? = some h ∧ h.accepts d.key = true
  alone : ∀ span, d.process hs span = d.process (d.dispatch hs).asked?.toList span
  reordered : ∀ hs', hs'.Perm hs →
    d.dispatch hs' = d.dispatch hs ∧ ∀ span, d.process hs' span = d.process hs span

variable {d : Directive} {hs hs' : List PragmaHandler} {h : PragmaHandler}

theorem dispatch_of_compile (hd : d.option = compileOption) (hs : List PragmaHandler) :
    d.dispatch hs = .builtin (compileKeys.contains d.key) :=
  if_pos hd

theorem dispatch_of_find? (hd : d.option ≠ compileOption)
    (hfind : hs.find? (·.claims d.option) = some h) : d.dispatch hs = h.answer d.key := by
  rw [dispatch, if_neg hd, hfind]
  rfl

theorem dispatch_of_unclaimed (hd : d.option ≠ compileOption)
    (hfind : hs.find? (·.claims d.option) = none) : d.dispatch hs = .unclaimed := by
  rw [dispatch, if_neg hd, hfind]

/-- Who a directive belongs to: the scanner, the handler that is found for its option, or nobody. -/
theorem dispatch_cases (d : Directive) (hs : List PragmaHandler) :
    (d.option = compileOption ∧ d.dispatch hs = .builtin (compileKeys.contains d.key)) ∨
      (d.option ≠ compileOption ∧
        ((∃ h, hs.find? (·.claims d.option) = some h ∧ d.dispatch hs = h.answer d.key) ∨
          (hs.find? (·.claims d.option) = none ∧ d.dispatch hs = .unclaimed))) := by
  by_cases hd : d.option = compileOption
  · exact .inl ⟨hd, dispatch_of_compile hd hs⟩
  · cases hfind : hs.find? (·.claims d.option) with
    | some h => exact .inr ⟨hd, .inl ⟨h, rfl, dispatch_of_find? hd hfind⟩⟩
    | none => exact .inr ⟨hd, .inr ⟨rfl, dispatch_of_unclaimed hd hfind⟩⟩

theorem asked?_dispatch_iff :
    (d.dispatch hs).asked? = some h ↔
      d.option ≠ compileOption ∧ hs.find? (·.claims d.option) = some h := by
  rcases dispatch_cases d hs with ⟨hd, heq⟩ | ⟨hd, ⟨g, hfind, heq⟩ | ⟨hfind, heq⟩⟩
  · simp [heq, hd, Dispatch.asked?]
  · simp [heq, hd, hfind, g.asked?_answer]
  · simp [heq, hfind, Dispatch.asked?]

theorem ran?_dispatch_iff :
    (d.dispatch hs).ran? = some h ↔
      (d.dispatch hs).asked? = some h ∧ h.accepts d.key = true := by
  rcases dispatch_cases d hs with ⟨-, heq⟩ | ⟨-, ⟨g, -, heq⟩ | ⟨-, heq⟩⟩
  · simp [heq, Dispatch.asked?, Dispatch.ran?]
  · rw [heq, g.asked?_answer, PragmaHandler.answer]
    by_cases hg : g.accepts d.key = true
    · rw [if_pos hg, Dispatch.ran?]
      exact ⟨fun heq => ⟨heq, Option.some.inj heq ▸ hg⟩, fun hboth => hboth.1⟩
    · rw [if_neg hg, Dispatch.ran?]
      refine ⟨nofun, ?_⟩
      rintro ⟨heq, haccepts⟩
      rw [← Option.some.inj heq] at haccepts
      exact absurd haccepts hg
  · simp [heq, Dispatch.asked?, Dispatch.ran?]

/-- Who a directive belongs to can be told from the handler that is asked alone. -/
theorem dispatch_asked (d : Directive) (hs : List PragmaHandler) :
    d.dispatch (d.dispatch hs).asked?.toList = d.dispatch hs := by
  rcases dispatch_cases d hs with ⟨hd, heq⟩ | ⟨hd, ⟨g, hfind, heq⟩ | ⟨hfind, heq⟩⟩
  · rw [heq, dispatch_of_compile hd]
  · have hclaims : g.claims d.option = true :=
      List.find?_some (p := fun g : PragmaHandler => g.claims d.option) hfind
    have hself : [g].find? (·.claims d.option) = some g := by simp [hclaims]
    rw [heq, g.asked?_answer]
    exact dispatch_of_find? hd hself
  · rw [heq]
    exact dispatch_of_unclaimed hd rfl

theorem owned (ha : PragmaHandler.Apart hs) (d : Directive) : d.Owned hs := by
  constructor
  case claimed => exact ha.length_claims_le d.option
  case asked_iff =>
    intro h
    rw [asked?_dispatch_iff, ha.find?_eq_some_iff]
  case ran_iff => exact fun h => ran?_dispatch_iff
  case alone =>
    intro span
    rw [process, process, dispatch_asked]
  case reordered =>
    intro hs' hp
    have hsame : d.dispatch hs' = d.dispatch hs := by
      rw [dispatch, dispatch, ha.find?_perm hp]
    refine ⟨hsame, ?_⟩
    intro span
    rw [process, process, hsame]

end Directive

/-! ## Sequences of registrations -/

namespace PragmaHandler

/-- However handlers are registered one after the other, those that remain have different names. One
more is refused exactly if its name is taken, and then the registry stays as it is. And a directive
that meets the handlers has one owner at most. -/
theorem one_owner (given : List PragmaHandler) :
    ((registerAll [] given).1.Pairwise fun g h => Text.sameIgnoringCase g.name h.name = false) ∧
      (∀ h, Taken (registerAll [] given).1 h.name →
        registerAll [] (given ++ [h]) = ((registerAll [] given).1,
          (registerAll [] given).2 ++ [some ⟨.duplicatePragmaHandler h.name, .unknown⟩])) ∧
      (∀ h, ¬Taken (registerAll [] given).1 h.name →
        registerAll [] (given ++ [h]) =
          ((registerAll [] given).1 ++ [h], (registerAll [] given).2 ++ [none])) ∧
      ∀ d : Directive, d.Owned (registerAll [] given).1 := by
  have hapart : Apart (registerAll [] given).1 := Apart.registerAll List.Pairwise.nil given
  refine ⟨apart_iff.1 hapart, ?_, ?_, Directive.owned hapart⟩
  · intro h ht
    rw [registerAll_concat, if_pos ht]
  · intro h ht
    rw [registerAll_concat, if_neg ht]

/-- A handler of that name that accepts one key. -/
def handlerFor (name key : Text) : PragmaHandler :=
  { name, accepts := (· == key), handle := fun _ _ _ => .ok () }

/-- A name in another letter case is taken, and the directive goes to the handler that has it. -/
theorem one_owner_sample :
    Taken (registerAll [] [handlerFor ['t'] ['K'], handlerFor ['u'] ['K']]).1 ['T'] ∧
      (registerAll [] [handlerFor ['t'] ['K'], handlerFor ['u'] ['K'], handlerFor ['T'] ['L']]).2 =
        [none, none, some ⟨.duplicatePragmaHandler ['T'], .unknown⟩] ∧
      (∀ d : Directive, d.Owned [handlerFor ['t'] ['K'], handlerFor ['u'] ['K']]) ∧
      (∃ h, (Directive.dispatch ⟨['T'], ['K'], none⟩
        [handlerFor ['u'] ['K'], handlerFor ['t'] ['K']]).ran? = some h ∧ h.name = ['t']) := by
  have htwo : (registerAll [] [handlerFor ['t'] ['K'], handlerFor ['u'] ['K']]).1 =
      [handlerFor ['t'] ['K'], handlerFor ['u'] ['K']] := rfl
  have htaken : Taken (registerAll [] [handlerFor ['t'] ['K'], handlerFor ['u'] ['K']]).1 ['T'] :=
    ⟨handlerFor ['t'] ['K'], by rw [htwo]; exact List.mem_cons_self, by decide⟩
  obtain ⟨-, hrefused, -, howned⟩ := one_owner [handlerFor ['t'] ['K'], handlerFor ['u'] ['K']]
  rw [htwo] at howned
  refine ⟨htaken, congrArg Prod.snd (hrefused (handlerFor ['T'] ['L']) htaken), howned, ?_⟩
  exact ⟨handlerFor ['t'] ['K'], rfl, rfl⟩

end PragmaHandler

end ScriptScan
