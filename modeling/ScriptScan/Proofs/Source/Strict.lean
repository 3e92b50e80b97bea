import ScriptScan.Proofs.Line.Expand
import ScriptScan.Proofs.Source.Reading

/-!
# Reading in strict mode

Strict mode only takes away. Whatever is read in strict mode is either read as it is without, or
refused as a one-line function; the two modes never give different lines. This is said for a line,
for a physical line in a state of the reader, for a run and for a source, each time as a choice of
two.
-/

namespace ScriptScan

/-- A line has the same block form in both modes, unless strict mode refuses it. -/
theorem expand_strict_cases (line : Text) :
    expand true line = expand false line ∨ expand true line = .error .oneLineFunc := by
  induction line using expand_induction with
  | blank line h =>
    left
    rw [expand_of_blank h, expand_of_blank h]
  | oneLineIf line header stmt h ih =>
    rw [expand_of_if h, expand_of_if h]
    -- the header and the closing line are the same, so the statement decides
    rcases ih with heq | hrefused
    · left
      rw [heq]
    · right
      rw [hrefused]
      rfl
  | oneLineFunc line decl body hif h ih =>
    right
    rw [expand_of_func hif h]
    rfl
  | plain line hne hif hfunc =>
    left
    rw [expand_of_plain hne hif hfunc, expand_of_plain hne hif hfunc]

theorem Reading.ofText_strict_cases (text : Text) :
    ofText true text = ofText false text ∨ ofText true text = .fails .oneLineFunc := by
  unfold ofText
  cases beforeContinuation? text with
  | some head => exact .inl rfl
  | none =>
    rcases expand_strict_cases (modernize text) with heq | hrefused
    · left
      rw [heq]
    · right
      rw [hrefused]

/-- A physical line comes to the same in both modes, unless strict mode refuses it. -/
theorem ReaderState.reading_strict_cases (s : ReaderState) (l : Text) :
    s.reading true l = s.reading false l ∨ s.reading true l = .fails .oneLineFunc := by
  unfold reading
  cases s.pending? with
  | some p => exact Reading.ofText_strict_cases _
  | none =>
    cases Marker.ofPhysical? l with
    | some marker => cases marker <;> exact .inl rfl
    | none =>
      by_cases hdepth : 0 < s.depth
      · simp [hdepth]
      · simpa [hdepth] using Reading.ofText_strict_cases _

/-- A run comes to the same in both modes, unless strict mode refuses one of its lines. -/
theorem SourceMode.run_strict_cases (file : Text) (s : ReaderState) (n : Nat) (ls : List Text) :
    run ⟨file, true⟩ s n ls = run ⟨file, false⟩ s n ls ∨
      ∃ span, run ⟨file, true⟩ s n ls = .error ⟨.oneLineFunc, span⟩ := by
  induction ls generalizing s n with
  | nil => exact .inl rfl
  | cons l ls ih =>
    rw [run_cons, run_cons]
    rcases s.reading_strict_cases l with heq | hrefused
    · -- the first line is the same, so the rest decides
      simp only [heq]
      cases (s.reading false l).place s.depth (s.spanAt file n) with
      | error f => exact .inl rfl
      | ok r =>
        obtain ⟨s', out⟩ := r
        rcases ih s' (n + 1) with hrest | ⟨span, hrest⟩
        · left
          simp only [hrest]
        · right
          refine ⟨span, ?_⟩
          simp only [hrest]
          rfl
    · right
      refine ⟨s.spanAt file n, ?_⟩
      simp only [hrefused]
      rfl

/-- A source comes to the same in both modes, unless strict mode refuses one of its lines. -/
theorem LogicalSource.read_strict_cases (file content : Text) :
    read ⟨file, true⟩ content = read ⟨file, false⟩ content ∨
      ∃ span, read ⟨file, true⟩ content = .error ⟨.oneLineFunc, span⟩ := by
  rw [read_eq, read_eq]
  rcases SourceMode.run_strict_cases file {} 1 content.lines with heq | ⟨span, hrefused⟩
  · left
    rw [heq]
  · right
    refine ⟨span, ?_⟩
    rw [hrefused]

end ScriptScan
