import ScriptScan.Proofs.Line.Expand
import ScriptScan.Proofs.Source.Spans

/-!
# Faults of the reader

Two things can be wrong with the lines of a source before anything is said about scripts: it ends in
a line that asks to be continued, or strict mode meets a one-line function
(`LogicalSource.cause_of_read`). Where such a fault stands is told in
`ScriptScan.Proofs.Source.Spans`.
-/

namespace ScriptScan

theorem Reading.cause_of_ofText {strict : Bool} {text : Text} {cause : Cause}
    (h : ofText strict text = .fails cause) : strict = true ∧ cause = .oneLineFunc := by
  unfold ofText at h
  split at h
  · cases h
  · split at h
    · cases h
    · rename_i cause' hexpand
      cases h
      exact expand_eq_error hexpand

theorem ReaderState.cause_of_reading {s : ReaderState} {strict : Bool} {l : Text} {cause : Cause}
    (h : s.reading strict l = .fails cause) : strict = true ∧ cause = .oneLineFunc := by
  unfold reading at h
  split at h
  · exact Reading.cause_of_ofText h
  · split at h
    · cases h
    · cases h
    · cases h
    · split at h
      · cases h
      · exact Reading.cause_of_ofText h

theorem SourceMode.cause_of_run {m : SourceMode} {s : ReaderState} {n : Nat} {ls : List Text}
    {f : Fault} (h : m.run s n ls = .error f) : m.strict = true ∧ f.cause = .oneLineFunc := by
  induction ls generalizing s n with
  | nil => cases h
  | cons l ls ih =>
    rcases run_cons_eq_error h with hplace | ⟨s₁, now, -, hrest⟩
    · exact ReaderState.cause_of_reading (Reading.place_eq_error hplace).1
    · exact ih hrest

/-- What can be wrong with the lines of a source. -/
theorem LogicalSource.cause_of_read {m : SourceMode} {content : Text} {f : Fault}
    (h : read m content = .error f) :
    f.cause = .danglingContinuation ∨ (m.strict = true ∧ f.cause = .oneLineFunc) := by
  rw [read_eq] at h
  split at h
  · rename_i f' hrun
    cases h
    exact .inr (SourceMode.cause_of_run hrun)
  · split at h
    · cases h
      exact .inl rfl
    · cases h

end ScriptScan
