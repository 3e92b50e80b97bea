import ScriptScan.Proofs.Outline.Content
import ScriptScan.Proofs.Outline.Functions
import ScriptScan.Proofs.Outline.Handlers

/-!
# Places do not matter

Lines with the same texts, each time in the order of their spans, give outlines of the same content,
or faults with the same key, as long as the handlers of pragmas are blind to places.

* `Outline.answer_step`, `Outline.answer_run`, `Script.answer_ofSource` — a step, a run, and a
  source.
* `Script.content_ofSource` — two sources that are accepted, whatever the handlers do.
-/

namespace ScriptScan

/-! ## Answers -/

/-- What a result says without places: what is left of it, or the key of the fault. -/
def answer {α β : Type} (view : α → β) (r : Except Fault α) : Except Text β :=
  (r.map view).mapError Fault.key

theorem answer_cases {α β : Type} {view : α → β} {r r' : Except Fault α}
    (h : answer view r = answer view r') :
    (∃ a a', r = .ok a ∧ r' = .ok a' ∧ view a = view a') ∨
      ∃ f f', r = .error f ∧ r' = .error f' ∧ f.key = f'.key := by
  cases r with
  | ok a =>
    cases r' with
    | ok a' => exact .inl ⟨a, a', rfl, rfl, Except.ok.inj h⟩
    | error f' => cases h
  | error f =>
    cases r' with
    | ok a' => cases h
    | error f' => exact .inr ⟨f, f', rfl, rfl, Except.error.inj h⟩

/-! ## Steps -/

namespace Outline

variable {ctx : ScanContext} {o o' : Outline} {l l' : LogicalLine} {ls ls' : List LogicalLine}

theorem isSome_open? (h : o.content = o'.content) : o.open?.isSome = o'.open?.isSome := by
  have hopen : o.open?.map (·.content) = o'.open?.map (·.content) :=
    congrArg OutlineContent.open? h
  have hsome := congrArg Option.isSome hopen
  simpa using hsome

/-- Whether a name is taken is told by the content. -/
theorem isSome_priorDeclaration? (h : o.content = o'.content) (ctx : ScanContext) (key : Text) :
    (o.priorDeclaration? ctx key).isSome = (o'.priorDeclaration? ctx key).isSome := by
  have hpath : o.path = o'.path := congrArg OutlineContent.path h
  have hkeys : o.closed.map (·.1) = o'.closed.map (·.1) := by
    have hclosed := congrArg (fun c => c.closed.map (·.1)) h
    simpa [content, Function.comp_def] using hclosed
  refine isSome_eq_of_eq_none_iff ?_
  rw [priorDeclaration?_eq_none_iff, priorDeclaration?_eq_none_iff, lookup_eq_none_iff_keys,
    lookup_eq_none_iff_keys, hkeys, hpath]

theorem answer_beginFunc (h : o.content = o'.content) (ctx : ScanContext) (hd : FuncHeader)
    (s s' : Span) :
    answer content ((o.beginFunc ctx hd s).mapError (⟨·, s⟩)) =
      answer content ((o'.beginFunc ctx hd s').mapError (⟨·, s'⟩)) := by
  unfold beginFunc
  -- each check fails in both outlines or in none, and with the same key
  rcases cases_of_isSome_eq (isSome_open? h) with ⟨ho, ho'⟩ | ⟨f, f', ho, ho'⟩
  · rw [ho, ho']
    by_cases hname : isReservedName hd.name = true
    · simp only [hname, if_true]
      rfl
    · simp only [hname, Bool.false_eq_true, if_false]
      rcases cases_of_isSome_eq (isSome_priorDeclaration? h ctx hd.name.key) with
        ⟨hp, hp'⟩ | ⟨prior, prior', hp, hp'⟩
      · rw [hp, hp']
        dsimp only
        cases ctx.parseParams hd.params with
        | error reason => rfl
        | ok params =>
          dsimp only
          cases Param.check params with
          | some cause => rfl
          | none =>
            have hsame : content { o with open? := some (.ofHeader hd o.path s params) } =
                content { o' with open? := some (.ofHeader hd o'.path s' params) } := by
              rw [content_begun, content_begun, h]
            exact congrArg Except.ok hsame
      · rw [hp, hp']
        rfl
  · rw [ho, ho']
    rfl

theorem answer_endFunc (h : o.content = o'.content) (s s' : Span) :
    answer content (o.endFunc.mapError (⟨·, s⟩)) =
      answer content (o'.endFunc.mapError (⟨·, s'⟩)) := by
  have hopen : o.open?.map (·.content) = o'.open?.map (·.content) :=
    congrArg OutlineContent.open? h
  unfold endFunc
  cases ho : o.open? with
  | none =>
    rw [ho] at hopen
    have ho' : o'.open? = none := by simpa using hopen.symm
    rw [ho']
    rfl
  | some f =>
    rw [ho] at hopen
    obtain ⟨f', ho', hf⟩ := Option.map_eq_some_iff.1 hopen.symm
    rw [ho']
    have hsame : content { o with open? := none, closed := o.closed ++ [(f.name.key, f)] } =
        content { o' with open? := none, closed := o'.closed ++ [(f'.name.key, f')] } := by
      rw [content_ended, content_ended, h, hf]
    exact congrArg Except.ok hsame

theorem answer_addLabel (h : o.content = o'.content) (ctx : ScanContext) (name : Text)
    (hl : o.current.Precedes l) (hl' : o'.current.Precedes l') :
    answer content ((o.addLabel ctx name l.span).mapError (⟨·, l.span⟩)) =
      answer content ((o'.addLabel ctx name l'.span).mapError (⟨·, l'.span⟩)) := by
  have hcurrent : o.current.content = o'.current.content := by
    rw [content_current, content_current, h]
  unfold addLabel
  by_cases hstrict : ctx.strict = true
  · simp only [hstrict, if_true]
    rfl
  · simp only [hstrict, Bool.false_eq_true, if_false]
    rcases cases_of_isSome_eq (FuncDecl.isSome_label? hcurrent name) with
      ⟨hnew, hnew'⟩ | ⟨prior, prior', hprior, hprior'⟩
    · rw [hnew, hnew']
      have hsame : (o.setCurrent (o.current.addLabel name l.span)).content =
          (o'.setCurrent (o'.current.addLabel name l'.span)).content := by
        rw [content_setCurrent, content_setCurrent, FuncDecl.content_addLabel hl,
          FuncDecl.content_addLabel hl', hcurrent, h]
      exact congrArg Except.ok hsame
    · rw [hprior, hprior']
      rfl

/-- Lines with one text do the same to outlines of one content. -/
theorem answer_step (hblind : ∀ h ∈ ctx.handlers, h.PlaceBlind) (h : o.content = o'.content)
    (hl : o.current.Precedes l) (hl' : o'.current.Precedes l') (htext : l.text = l'.text) :
    answer content (step ctx o l) = answer content (step ctx o' l') := by
  unfold step
  rw [← htext]
  cases LineRule.classify l.text with
  | none =>
    have hsame : (o.setCurrent (o.current.addLine l)).content =
        (o'.setCurrent (o'.current.addLine l')).content := by
      rw [content_setCurrent, content_setCurrent, FuncDecl.content_addLine hl,
        FuncDecl.content_addLine hl', content_current, content_current, htext, h]
    exact congrArg Except.ok hsame
  | some form =>
    cases form with
    | includeOnce =>
      have hsame : content { o with includeOnce := true } =
          content { o' with includeOnce := true } :=
        congrArg (fun c : OutlineContent => { c with includeOnce := true }) h
      exact congrArg Except.ok hsame
    | startupHook func =>
      have hsame : content { o with startup := o.startup ++ [⟨func, l.span⟩] } =
          content { o' with startup := o'.startup ++ [⟨func, l'.span⟩] } := by
        rw [content_startup, content_startup, h]
      exact congrArg Except.ok hsame
    | exitHook func =>
      have hsame : content { o with exit := o.exit ++ [⟨func, l.span⟩] } =
          content { o' with exit := o'.exit ++ [⟨func, l'.span⟩] } := by
        rw [content_exit, content_exit, h]
      exact congrArg Except.ok hsame
    | pragma d =>
      simp only [accept]
      -- the one line whose outcome is up to the host
      rcases d.process_cases hblind l.span l'.span with ⟨hr, hr'⟩ | ⟨f, f', hr, hr', hkey⟩
      · rw [hr, hr']
        exact congrArg Except.ok h
      · rw [hr, hr']
        exact congrArg Except.error hkey
    | func hd => exact answer_beginFunc h ctx hd l.span l'.span
    | endFunc => exact answer_endFunc h l.span l'.span
    | label name => exact answer_addLabel h ctx name hl hl'

/-! ## Runs -/

/-- Lines with the same texts do the same to outlines of one content. -/
theorem answer_run (hblind : ∀ h ∈ ctx.handlers, h.PlaceBlind) (h : o.content = o'.content)
    (hf : o.Follows ls) (hf' : o'.Follows ls') (htexts : ls.map (·.text) = ls'.map (·.text)) :
    answer content (run ctx o ls) = answer content (run ctx o' ls') := by
  induction ls generalizing o o' ls' with
  | nil =>
    have hnil : ls' = [] := by simpa using htexts.symm
    rw [hnil]
    exact congrArg Except.ok h
  | cons l ls ih =>
    cases ls' with
    | nil => cases htexts
    | cons l' ls' =>
      rw [List.map_cons, List.map_cons] at htexts
      obtain ⟨htext, hrest⟩ := List.cons.inj htexts
      have hstep := answer_step hblind h hf.current hf'.current htext
      simp only [run]
      rcases answer_cases hstep with ⟨o₁, o₁', hs, hs', h₁⟩ | ⟨f, f', hs, hs', hkey⟩
      · rw [hs, hs']
        exact ih h₁ ((step_eq_ok_iff.1 hs).follows hf) ((step_eq_ok_iff.1 hs').follows hf') hrest
      · rw [hs, hs']
        exact congrArg Except.error hkey

end Outline

/-! ## Scripts -/

theorem Outline.content_functions (o : Outline) :
    o.functions.content = (o.content.closed ++ [(o.content.main.name.key, o.content.main)]).map
      fun (key, f) => (key, some f) := by
  simp [FuncTable.content, functions, content, FuncDecl.content, Func.decl?, Function.comp_def]

/-- What a script holds, without places. -/
structure ScriptContent where
  path : Path
  functions : List (Text × Option FuncContent)
  startup : List Text
  exit : List Text
  includeOnce : Bool
  state : LoadState
deriving DecidableEq, Repr

namespace Script

variable {ctx : ScanContext} {path : Path} {source source' : LogicalSource}

def content (s : Script) : ScriptContent where
  path := s.path
  functions := s.functions.content
  startup := s.startup.map (·.func)
  exit := s.exit.map (·.func)
  includeOnce := s.includeOnce
  state := s.state

/-- Outlines of one content make scripts of one content. -/
theorem content_make {o o' : Outline} (h : o.content = o'.content) :
    (make o.path o.functions o.startup o.exit o.includeOnce).content =
      (make o'.path o'.functions o'.startup o'.exit o'.includeOnce).content := by
  have hpath : o.path = o'.path := congrArg OutlineContent.path h
  have htable : o.functions.content = o'.functions.content := by
    rw [Outline.content_functions, Outline.content_functions, h]
  have hstartup : o.startup.map (·.func) = o'.startup.map (·.func) :=
    congrArg OutlineContent.startup h
  have hexit : o.exit.map (·.func) = o'.exit.map (·.func) := congrArg OutlineContent.exit h
  have honce : o.includeOnce = o'.includeOnce := congrArg OutlineContent.includeOnce h
  have hfunctions := FuncTable.content_insertNew htable (.declared (.main o'.path))
  simp only [content, make, hpath, hfunctions, hstartup, hexit, honce]

/-- Sources with the same texts declare scripts of one content, or are refused with one key. -/
theorem answer_ofSource (hblind : ∀ h ∈ ctx.handlers, h.PlaceBlind)
    (hordered : source.lines.Pairwise fun a b => LineTable.ComesAt a.span b)
    (hordered' : source'.lines.Pairwise fun a b => LineTable.ComesAt a.span b)
    (htexts : source.lines.map (·.text) = source'.lines.map (·.text)) :
    answer content (ofSource ctx path source) = answer content (ofSource ctx path source') := by
  have hrun := Outline.answer_run hblind rfl (Outline.follows_empty path hordered)
    (Outline.follows_empty path hordered') htexts
  unfold ofSource
  rcases answer_cases hrun with ⟨o, o', ho, ho', h⟩ | ⟨f, f', hf, hf', hkey⟩
  · rw [ho, ho']
    simp only [Outline.finish]
    rcases cases_of_isSome_eq (Outline.isSome_open? h) with ⟨hnone, hnone'⟩ | ⟨f, f', hsome, hsome'⟩
    · rw [hnone, hnone']
      exact congrArg Except.ok (content_make h)
    · rw [hsome, hsome']
      rfl
  · rw [hf, hf']
    exact congrArg Except.error hkey

/-- Sources with the same texts declare scripts of one content, if both are accepted. -/
theorem content_ofSource {s s' : Script}
    (hordered : source.lines.Pairwise fun a b => LineTable.ComesAt a.span b)
    (hordered' : source'.lines.Pairwise fun a b => LineTable.ComesAt a.span b)
    (htexts : source.lines.map (·.text) = source'.lines.map (·.text))
    (h : ofSource ctx path source = .ok s) (h' : ofSource ctx path source' = .ok s') :
    s.content = s'.content := by
  have hsilenced : ∀ {source : LogicalSource} {s : Script},
      ofSource ctx path source = .ok s → ofSource ctx.silenced path source = .ok s := by
    intro source s h
    obtain ⟨o, hrun, hopen, hs⟩ := ofSource_eq_ok_iff.1 h
    exact ofSource_eq_ok_iff.2 ⟨o, Outline.run_silenced hrun, hopen, hs⟩
  have hanswer : answer content (ofSource ctx.silenced path source) =
      answer content (ofSource ctx.silenced path source') :=
    answer_ofSource ctx.placeBlind_silenced hordered hordered' htexts
  rw [hsilenced h, hsilenced h'] at hanswer
  exact Except.ok.inj hanswer

end Script

end ScriptScan
