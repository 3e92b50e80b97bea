import ScriptScan.Proofs.Line.Sign
import ScriptScan.Script.Outline

/-!
# Reading a script by the rules in another order

A script is read by a table of line rules, and each line goes to the first rule that reads it. Here
the table is a parameter. Since no line has two rules, every reordering of the table takes each step
as before (`Outline.stepBy_of_perm`), and so comes to the same outline, the same script or fault,
and the same runs of handlers (`LineRule.never_compete`).
-/

namespace ScriptScan

/-! ## Reading by a table of rules -/

/-- Reads one line by some rules. -/
def Outline.stepBy (rules : List LineRule) (ctx : ScanContext) (o : Outline) (l : LogicalLine) :
    Except Fault Outline :=
  match LineRule.classifyBy rules l.text with
  | some form => o.accept ctx form l.span
  | none => .ok (o.setCurrent (o.current.addLine l))

/-- Reads some lines by some rules. -/
def Outline.runBy (rules : List LineRule) (ctx : ScanContext) (o : Outline) :
    List LogicalLine → Except Fault Outline
  | [] => .ok o
  | l :: ls =>
    match stepBy rules ctx o l with
    | .error f => .error f
    | .ok o' => runBy rules ctx o' ls

/-- The script that a source declares by some rules. -/
def Script.ofSourceBy (rules : List LineRule) (ctx : ScanContext) (path : Path)
    (source : LogicalSource) : Except Fault Script :=
  match Outline.runBy rules ctx (.empty path) source.lines with
  | .error f => .error f
  | .ok o => o.finish source.physicalCount

/-- The handler run that a line leads to by some rules. -/
def LogicalLine.pragmaCallBy? (rules : List LineRule) (ctx : ScanContext) (l : LogicalLine) :
    Option PragmaCall :=
  match LineRule.classifyBy rules l.text with
  | some (.pragma d) =>
    (d.dispatch ctx.handlers).ran?.map fun h => ⟨h.name, l.span, d.key, d.value?⟩
  | _ => none

/-- The handler runs that reading some lines by some rules leads to, in order, up to and including
the line at which the reading ends. -/
def Outline.pragmaCallsBy (rules : List LineRule) (ctx : ScanContext) (o : Outline) :
    List LogicalLine → List PragmaCall
  | [] => []
  | l :: ls =>
    (l.pragmaCallBy? rules ctx).toList ++
      match stepBy rules ctx o l with
      | .error _ => []
      | .ok o' => pragmaCallsBy rules ctx o' ls

/-! ## Reordered tables -/

variable {rules : List LineRule} {ctx : ScanContext} {o : Outline} {l : LogicalLine}

namespace Outline

/-- A line is read as before. -/
theorem stepBy_of_perm (hp : rules.Perm LineRule.all) : stepBy rules ctx o l = step ctx o l := by
  rw [stepBy, LineRule.classifyBy_of_perm hp]
  rfl

/-- So are any number of lines. -/
theorem runBy_of_perm (hp : rules.Perm LineRule.all) (ls : List LogicalLine) :
    runBy rules ctx o ls = run ctx o ls := by
  induction ls generalizing o with
  | nil => rfl
  | cons l ls ih =>
    rw [runBy, run, stepBy_of_perm hp]
    cases step ctx o l with
    | error f => rfl
    | ok o' => exact ih

end Outline

theorem LogicalLine.pragmaCallBy?_of_perm (hp : rules.Perm LineRule.all) :
    l.pragmaCallBy? rules ctx = l.pragmaCall? ctx := by
  rw [pragmaCallBy?, LineRule.classifyBy_of_perm hp]
  rfl

/-- The same handlers run, in the same order. -/
theorem Outline.pragmaCallsBy_of_perm (hp : rules.Perm LineRule.all) (ls : List LogicalLine) :
    pragmaCallsBy rules ctx o ls = pragmaCalls ctx o ls := by
  induction ls generalizing o with
  | nil => rfl
  | cons l ls ih =>
    rw [pragmaCallsBy, pragmaCalls, LogicalLine.pragmaCallBy?_of_perm hp, stepBy_of_perm hp]
    cases step ctx o l with
    | error f => rfl
    | ok o' => simp only [ih]

theorem Script.ofSourceBy_of_perm (hp : rules.Perm LineRule.all) (path : Path)
    (source : LogicalSource) : ofSourceBy rules ctx path source = ofSource ctx path source := by
  rw [ofSourceBy, Outline.runBy_of_perm hp]
  rfl

namespace LineRule

/-- The line rules never compete. No line is read by two of them, and so a source comes to the same
script or the same fault, by the same runs of handlers, in whatever order they are tried. -/
theorem never_compete :
    (∀ (line : Text) (r r' : LineRule), r.Matches line → r'.Matches line → r = r') ∧
      ∀ rules : List LineRule, rules.Perm all →
        ∀ (ctx : ScanContext) (path : Path) (source : LogicalSource),
          Script.ofSourceBy rules ctx path source = Script.ofSource ctx path source ∧
            Outline.pragmaCallsBy rules ctx (.empty path) source.lines =
              Outline.pragmaCalls ctx (.empty path) source.lines := by
  constructor
  · intro line r r' h h'
    exact eq_of_matches h h'
  · intro rules hp ctx path source
    exact ⟨Script.ofSourceBy_of_perm hp path source,
      Outline.pragmaCallsBy_of_perm hp source.lines⟩

/-- A context with a handler for the pragmas of one option. -/
def tracing : ScanContext where
  strict := false
  handlers := [⟨"trace".toList, fun _ => true, fun _ _ _ => .ok ()⟩]
  parseParams := ScanContext.defaultParams
  known _ := none

/-- A source with a line for each rule, the first of them with a long s, and a line for none. -/
def oneOfEach : LogicalSource where
  lines :=
    ["#OnAutoItſtartRegister 'boot\"", "#onautoitexitregister \"halt\"", "#Include-Once",
      "#pragma trace(level, 3)", "volatilefunc boot()", "again :", "g()", "EndFunc"].map
        fun text => ⟨text.toList, .unknown⟩
  physicalCount := 8

/-- The rule for a directive in unusual letters, and all rules tried from the last to the first. -/
theorem never_compete_sample :
    startupHook.Matches "#OnAutoItſtartRegister 'boot\"".toList ∧
      (∀ r : LineRule, r.Matches "#OnAutoItſtartRegister 'boot\"".toList → startupHook = r) ∧
      all.reverse.Perm all ∧
      (∃ s, Script.ofSourceBy all.reverse tracing ⟨['/']⟩ oneOfEach = .ok s ∧
        s.includeOnce = true ∧ s.startup = [⟨"BOOT".toList, .unknown⟩] ∧
        s.exit = [⟨"HALT".toList, .unknown⟩] ∧
        s.functions.map (·.1) = ["BOOT".toList, "$GLOBAL".toList]) ∧
      Outline.pragmaCallsBy all.reverse tracing (.empty ⟨['/']⟩) oneOfEach.lines =
        [⟨"trace".toList, .unknown, "LEVEL".toList, some ['3']⟩] := by
  have hmatches : startupHook.Matches "#OnAutoItſtartRegister 'boot\"".toList := by
    decide +kernel
  have hperm : all.reverse.Perm all := List.reverse_perm all
  obtain ⟨hunique, hreordered⟩ := never_compete
  obtain ⟨hscript, hcalls⟩ := hreordered all.reverse hperm tracing ⟨['/']⟩ oneOfEach
  refine ⟨hmatches, fun r hr => hunique _ _ _ hmatches hr, hperm, ?_, ?_⟩
  · rw [hscript]
    exact ⟨_, rfl, rfl, rfl, rfl, rfl⟩
  · rw [hcalls]
    decide +kernel

end LineRule

end ScriptScan
