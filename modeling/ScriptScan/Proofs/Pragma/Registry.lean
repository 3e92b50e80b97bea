import ScriptScan.Proofs.Text.LetterCase
import ScriptScan.Pragma

/-!
# Registered handlers

Handlers are registered one after the other, and one that is named like a handler before it is
refused. So an option is claimed by one handler at most, and that handler is the one that is found.

* `PragmaHandler.Apart` is what registration keeps: no handler claims the option of a later one.
* `Directive.dispatch_eq_iff` — a directive goes to the handler that claims its option, wherever in
  the list the handler stands; the handler accepts its key or refuses it.
-/

namespace ScriptScan

namespace PragmaHandler

/-- Whether no handler claims the option of a later one. -/
def Apart (hs : List PragmaHandler) : Prop :=
  hs.Pairwise fun g h => g.claims h.name = false

variable {hs hs' : List PragmaHandler} {h : PragmaHandler} {option : Text}

theorem register_eq_ok (hr : register hs h = .ok hs') :
    (∀ g ∈ hs, g.claims h.name = false) ∧ hs' = hs ++ [h] := by
  unfold register at hr
  split at hr
  · cases hr
  · rename_i hnew
    cases hr
    exact ⟨by simpa using hnew, rfl⟩

theorem Apart.registerAll (ha : Apart hs) (given : List PragmaHandler) :
    Apart (registerAll hs given).1 := by
  induction given generalizing hs with
  | nil => exact ha
  | cons h rest ih =>
    unfold PragmaHandler.registerAll
    split
    · rename_i hs' hr
      obtain ⟨hnew, rfl⟩ := register_eq_ok hr
      refine ih (List.pairwise_append.2 ⟨ha, List.pairwise_singleton _ _, ?_⟩)
      intro g hg h' hh'
      rw [List.mem_singleton.1 hh']
      exact hnew g hg
    · exact ih ha

/-- The handler that claims an option is the first one that does. -/
theorem Apart.find? (ha : Apart hs) (hh : h ∈ hs) (hclaims : h.claims option = true) :
    hs.find? (·.claims option) = some h := by
  obtain ⟨front, back, rfl⟩ := List.append_of_mem hh
  refine List.find?_eq_some_iff_append.2 ⟨hclaims, front, back, rfl, ?_⟩
  intro g hg
  rw [Bool.not_eq_true', Bool.eq_false_iff]
  intro hboth
  -- the two names would be the same, and the earlier handler would claim the option of the later
  have hname : Text.sameIgnoringCase option h.name = true := by
    rw [Text.sameIgnoringCase_comm]
    exact hclaims
  have hclaim : g.claims h.name = true := Text.sameIgnoringCase_trans hboth hname
  have hapart := (List.pairwise_append.1 ha).2.2 g hg h List.mem_cons_self
  rw [hclaim] at hapart
  cases hapart

end PragmaHandler

/-! ## Dispatch -/

/-- What becomes of a directive that goes to a handler. -/
def PragmaHandler.answer (h : PragmaHandler) (key : Text) : Dispatch :=
  if h.accepts key then .accepted h else .refused h

theorem PragmaHandler.asked?_answer (h : PragmaHandler) (key : Text) :
    (h.answer key).asked? = some h := by
  unfold answer
  split <;> rfl

/-- A directive that does not belong to the scanner goes to the handler that claims its option. -/
theorem Directive.dispatch_eq_iff {hs : List PragmaHandler} (ha : PragmaHandler.Apart hs)
    {h : PragmaHandler} (hh : h ∈ hs) {d : Directive} (hd : d.option ≠ compileOption) :
    d.dispatch hs = h.answer d.key ↔ h.claims d.option = true := by
  rw [dispatch, if_neg hd]
  constructor
  · intro heq
    have hasked := congrArg Dispatch.asked? heq
    rw [h.asked?_answer] at hasked
    cases hfind : hs.find? (·.claims d.option) with
    | none =>
      rw [hfind] at hasked
      cases hasked
    | some g =>
      have hg : (g.answer d.key).asked? = some h := by
        rw [hfind] at hasked
        exact hasked
      rw [g.asked?_answer] at hg
      cases hg
      exact List.find?_some (p := fun g : PragmaHandler => g.claims d.option) hfind
  · intro hclaims
    rw [ha.find? hh hclaims]
    rfl

end ScriptScan
