import ScriptScan.Proofs.Outline.Step
import ScriptScan.Proofs.Pragma.Registry

/-!
# Pragmas that reach their handlers

A pragma is written `#pragma OPTION(KEY)` or `#pragma OPTION(KEY, VALUE)`. On the way to the handler
of its option it is read, its option and its key are brought into upper case, and the handler is
found by its name without regard to the case of the letters a to z. Two things can keep it from
arriving: the reader wants two characters at least of an option, the first of them an underscore or
a letter a to z; and the upper case of another letter is another letter.

* `LineRule.classify_pragma` — a line that begins with `#pragma` is read by one rule only.
* `Directive.read?_line` — what the reader makes of a pragma.
* `Pragma.reaches_iff` — the options that reach a handler. Those of an ASCII name of two characters
  or more do, in whatever letter case.
* `Pragma.not_reached` — a name of one character, and a name with another letter.
-/

namespace ScriptScan

/-! ## The one rule for pragmas -/

/-- No other rule reads a line that begins with `#pragma`. -/
theorem LineRule.read?_pragma_of_ne {r : LineRule} (h : r ≠ .pragma) (t : Text) :
    r.read? ("#pragma".toList ++ t) = none := by
  cases r with
  | pragma => exact absurd rfl h
  | includeOnce => rfl
  | startupHook => rfl
  | exitHook => rfl
  | func => rfl
  | endFunc => rfl
  | label => rfl

theorem LineRule.classify_pragma (t : Text) :
    classify ("#pragma".toList ++ t) = (Directive.read? ("#pragma".toList ++ t)).map .pragma := by
  have hpragma : LineRule.pragma.read? ("#pragma".toList ++ t) =
      (Directive.read? ("#pragma".toList ++ t)).map .pragma := rfl
  -- the rules before that one and behind it find nothing
  simp only [classify, classifyBy, all, List.findSome?_cons, List.findSome?_nil, hpragma, ne_eq,
    reduceCtorEq, not_false_eq_true, read?_pragma_of_ne]
  cases Directive.read? ("#pragma".toList ++ t) with
  | none => rfl
  | some d => rfl

/-! ## Written pragmas -/

namespace Pragma

/-- Behind the word and white space the option is taken. -/
theorem read?_pragma {t rest : Text} (h : Text.dropBlanks? (' ' :: t) = some rest) :
    Directive.read? ("#pragma".toList ++ ' ' :: t) =
      rest.takeName?.bind fun (name, rest) =>
        if name.length < 2 then none
        else some (.ofParams name ((Directive.readParens? rest.trimStart).getD [])) := by
  have hkeyword : Text.dropKeyword? ("#pragma".toList ++ ' ' :: t) "#pragma".toList =
      some (' ' :: t) := rfl
  rw [Directive.read?, hkeyword]
  simp only [Option.bind_eq_bind, Option.bind_some, h]

/-- A key and perhaps a value, as they are written between parentheses. -/
def params (key : Text) (value? : Option Text) : Text :=
  match value? with
  | some value => key ++ ',' :: ' ' :: value
  | none => key

/-- The line of a pragma. -/
def line (option key : Text) (value? : Option Text) : Text :=
  "#pragma".toList ++ ' ' :: (option ++ '(' :: (params key value? ++ [')']))

/-- What a pragma is to say: its option and its key in upper case, and without white space around
the key and the value. -/
def directive (option key : Text) (value? : Option Text) : Directive :=
  ⟨option.upper, key.key, value?.map Text.trim⟩

/-- Whether an option can be read: two characters at least, the first of which may begin a name. -/
def IsOption (option : Text) : Prop :=
  ∃ c r, option = c :: r ∧ startsName c = true ∧ r ≠ []

variable {option key : Text} {value? : Option Text}

/-- The first comma divides the key and the value. -/
theorem ofParams_params (option : Text) (hkey : ',' ∉ key) :
    Directive.ofParams option (params key value?) = directive option key value? := by
  cases value? with
  | none =>
    simp [Directive.ofParams, params, Text.splitFirst?_eq_none hkey, directive]
  | some value =>
    have hsplit : (key ++ ',' :: ' ' :: value).splitFirst? ',' = some (key, ' ' :: value) :=
      Text.splitFirst?_eq_some_iff.2 ⟨rfl, hkey⟩
    have htrim : Text.trim (' ' :: value) = value.trim := rfl
    simp only [Directive.ofParams, params, hsplit, directive, htrim, Option.map_some]

/-- The last closing parenthesis is the one that ends the pragma. -/
theorem readParens?_params {ps : Text} (hline : '\n' ∉ ps) :
    Directive.readParens? ('(' :: (ps ++ [')'])) = some ps := by
  have htake : (ps ++ [')']).takeWhile (· ≠ '\n') = ps ++ [')'] := by
    rw [List.takeWhile_eq_self_iff]
    intro c hc
    rw [decide_eq_true_eq]
    rintro rfl
    simp [hline] at hc
  have hsplit : (ps ++ [')']).splitLast? ')' = some (ps, []) := by
    simp [Text.splitLast?, Text.splitFirst?]
  rw [Directive.readParens?, htake, hsplit]
  rfl

/-- The option is read from where it begins. -/
theorem read?_line_eq (hword : ∀ c ∈ option, isWord c = true) :
    Directive.read? (line option key value?) =
      (Text.takeName? (option ++ '(' :: (params key value? ++ [')']))).bind fun (name, rest) =>
        if name.length < 2 then none
        else some (.ofParams name ((Directive.readParens? rest.trimStart).getD [])) := by
  have hstart : Text.trimStart (option ++ '(' :: (params key value? ++ [')'])) =
      option ++ '(' :: (params key value? ++ [')']) := by
    rw [Text.trimStart_eq_self_iff]
    intro c hc
    cases option with
    | nil =>
      cases hc
      decide
    | cons d r =>
      cases hc
      exact isBlank_of_isWord (hword c List.mem_cons_self)
  have hblanks : Text.dropBlanks? (' ' :: (option ++ '(' :: (params key value? ++ [')']))) =
      some (option ++ '(' :: (params key value? ++ [')'])) := by
    rw [Text.dropBlanks?, if_pos (by decide), hstart]
  exact read?_pragma hblanks

/-- A pragma is read as it is meant if its option can be read. -/
theorem read?_line_of_isOption (ho : IsOption option) (hword : ∀ c ∈ option, isWord c = true)
    (hkey : ',' ∉ key) (hline : '\n' ∉ params key value?) :
    Directive.read? (line option key value?) = some (directive option key value?) := by
  obtain ⟨c, r, rfl, hc, hr⟩ := ho
  have hname : Text.IsName (c :: r) :=
    ⟨c, r, rfl, hc, fun d hd => hword d (List.mem_cons_of_mem _ hd)⟩
  have hlength : ¬(c :: r).length < 2 := by
    have hpos := List.length_pos_iff.2 hr
    simp only [List.length_cons]
    omega
  have hparens : Text.trimStart ('(' :: (params key value? ++ [')'])) =
      '(' :: (params key value? ++ [')']) := rfl
  rw [read?_line_eq hword, Text.takeName?_of_isName hname (by rfl)]
  simp only [Option.bind_some, if_neg hlength, hparens, readParens?_params hline, Option.getD_some,
    ofParams_params _ hkey]

/-- Otherwise it is not read as a pragma at all. -/
theorem read?_line_of_not_isOption (ho : ¬IsOption option)
    (hword : ∀ c ∈ option, isWord c = true) (key : Text) (value? : Option Text) :
    Directive.read? (line option key value?) = none := by
  rw [read?_line_eq hword]
  cases option with
  | nil => rfl
  | cons c r =>
    rw [List.cons_append]
    by_cases hc : startsName c = true
    · -- the option is one character
      have hr : r = [] := by
        by_contra hne
        exact ho ⟨c, r, rfl, hc, hne⟩
      subst hr
      have hname : Text.IsName [c] := ⟨c, [], rfl, hc, by simp⟩
      have htake : Text.takeName? ([c] ++ '(' :: (params key value? ++ [')'])) =
          some ([c], '(' :: (params key value? ++ [')'])) :=
        Text.takeName?_of_isName hname rfl
      rw [List.singleton_append] at htake
      rw [List.nil_append, htake]
      rfl
    · rw [Text.takeName?, if_neg hc]
      rfl

/-! ## Reaching a handler -/

/-- Whether a pragma reaches a handler. Its line is read as the pragma that is meant, and the
directive goes to the handler. So to read the line is to have the key and the value handled, if the
handler accepts the key; otherwise it is the fault that the key is not known. -/
structure Reaches (hs : List PragmaHandler) (h : PragmaHandler) (option key : Text)
    (value? : Option Text) : Prop where
  classified : LineRule.classify (line option key value?) =
    some (.pragma (directive option key value?))
  dispatched : (directive option key value?).dispatch hs = h.answer key.key
  carried_out : ∀ (ctx : ScanContext) (o : Outline) (span : Span), ctx.handlers = hs →
    Outline.step ctx o ⟨line option key value?, span⟩ =
      if h.accepts key.key then (h.handle span key.key (value?.map Text.trim)).map fun _ => o
      else .error ⟨.unhandledPragmaKey key.key option.upper, span⟩

variable {hs : List PragmaHandler} {h : PragmaHandler}

/-- What is done with a pragma is told by how it is read and where it goes. -/
theorem reaches_of_dispatch
    (hc : LineRule.classify (line option key value?) = some (.pragma (directive option key value?)))
    (hd : (directive option key value?).dispatch hs = h.answer key.key) :
    Reaches hs h option key value? := by
  refine ⟨hc, hd, ?_⟩
  rintro ctx o span rfl
  simp only [Outline.step, hc, Outline.accept, Directive.process, hd, PragmaHandler.answer]
  split <;> rfl

theorem classify_line_of_isOption (ho : IsOption option) (hword : ∀ c ∈ option, isWord c = true)
    (hkey : ',' ∉ key) (hline : '\n' ∉ params key value?) :
    LineRule.classify (line option key value?) = some (.pragma (directive option key value?)) := by
  have hread := congrArg (Option.map LineForm.pragma) (read?_line_of_isOption ho hword hkey hline)
  exact (LineRule.classify_pragma _).trans hread

/-- The line of an option that cannot be read is left to a body. -/
theorem classify_line_of_not_isOption (ho : ¬IsOption option)
    (hword : ∀ c ∈ option, isWord c = true) (key : Text) (value? : Option Text) :
    LineRule.classify (line option key value?) = none := by
  have hread := congrArg (Option.map LineForm.pragma)
    (read?_line_of_not_isOption ho hword key value?)
  exact (LineRule.classify_pragma _).trans hread

/-- A pragma reaches a handler exactly if its option can be read, is not the one of the scanner, and
has an upper case that the handler claims. -/
theorem reaches_iff_claims (ha : PragmaHandler.Apart hs) (hh : h ∈ hs)
    (hword : ∀ c ∈ option, isWord c = true) (hkey : ',' ∉ key) (hline : '\n' ∉ params key value?) :
    Reaches hs h option key value? ↔
      IsOption option ∧ option.upper ≠ Directive.compileOption ∧ h.claims option.upper = true := by
  constructor
  · intro hr
    have ho : IsOption option := by
      by_contra ho
      have hnone := classify_line_of_not_isOption ho hword key value?
      rw [hr.classified] at hnone
      cases hnone
    have hcompile : option.upper ≠ Directive.compileOption := by
      intro heq
      -- a directive of the scanner itself asks no handler
      have hown : (directive option key value?).option = Directive.compileOption := heq
      have hasked := congrArg Dispatch.asked? hr.dispatched
      rw [h.asked?_answer, Directive.dispatch, if_pos hown] at hasked
      cases hasked
    exact ⟨ho, hcompile, (Directive.dispatch_eq_iff ha hh hcompile).1 hr.dispatched⟩
  · rintro ⟨ho, hcompile, hclaims⟩
    exact reaches_of_dispatch (classify_line_of_isOption ho hword hkey hline)
      ((Directive.dispatch_eq_iff ha hh hcompile).2 hclaims)

/-- An option in another letter case can be read if the name can. -/
theorem IsOption.of_sameIgnoringCase {name : Text} (ho : IsOption name)
    (hsame : Text.sameIgnoringCase name option = true) : IsOption option := by
  obtain ⟨c, r, rfl, hc, hr⟩ := ho
  have hmap := beq_iff_eq.1 hsame
  cases option with
  | nil => cases hmap
  | cons d u =>
    obtain ⟨hhead, htail⟩ := List.cons.inj hmap
    refine ⟨d, u, rfl, ?_, ?_⟩
    · rw [← startsName_toLower, ← hhead, startsName_toLower]
      exact hc
    · rintro rfl
      exact hr (List.map_eq_nil_iff.1 htail)

/-- Of the pragmas with word characters for an option, those reach a registered handler whose option
has two characters or more, begins as a name does, and is the name of the handler but for the case
of the letters a to z when it is brought into upper case. A handler with an ASCII name of two
characters or more is reached under its name, in whatever letter case. -/
theorem reaches_iff {given : List PragmaHandler}
    (hreg : h ∈ (PragmaHandler.registerAll [] given).1) (hword : ∀ c ∈ option, isWord c = true)
    (hkey : ',' ∉ key) (hline : '\n' ∉ params key value?) :
    (Reaches (PragmaHandler.registerAll [] given).1 h option key value? ↔
      IsOption option ∧ option.upper ≠ Directive.compileOption ∧
        Text.sameIgnoringCase h.name option.upper = true) ∧
    (IsOption h.name → (∀ c ∈ h.name, c.toNat < 0x80) →
      h.name.upper ≠ Directive.compileOption → Text.sameIgnoringCase h.name option = true →
      Reaches (PragmaHandler.registerAll [] given).1 h option key value?) := by
  have ha : PragmaHandler.Apart (PragmaHandler.registerAll [] given).1 :=
    PragmaHandler.Apart.registerAll .nil given
  have hiff := reaches_iff_claims ha hreg hword hkey hline
  refine ⟨hiff, ?_⟩
  intro ho hascii hcompile hsame
  have hupper : h.name.upper = option.upper := Text.upper_eq_of_sameIgnoringCase hsame
  rw [hiff, ← hupper]
  exact ⟨ho.of_sameIgnoringCase hsame, hcompile, Text.sameIgnoringCase_upper hascii⟩

/-- A handler that accepts one key. -/
def handlerNamed (name : Text) : PragmaHandler :=
  ⟨name, fun key => key == "LEVEL".toList, fun _ _ _ => .ok ()⟩

/-- A handler behind another one, of which the third would take the option. -/
theorem reaches_iff_sample :
    handlerNamed "Trace".toList ∈ (PragmaHandler.registerAll []
        [handlerNamed "t".toList, handlerNamed "Trace".toList, handlerNamed "TRACE".toList]).1 ∧
      (∀ c ∈ "tRACE".toList, isWord c = true) ∧ ',' ∉ " level ".toList ∧
      '\n' ∉ params " level ".toList (some "(a, b)".toList) ∧
      Reaches (PragmaHandler.registerAll []
          [handlerNamed "t".toList, handlerNamed "Trace".toList, handlerNamed "TRACE".toList]).1
        (handlerNamed "Trace".toList) "tRACE".toList " level ".toList (some "(a, b)".toList) := by
  have hall : (PragmaHandler.registerAll []
      [handlerNamed "t".toList, handlerNamed "Trace".toList, handlerNamed "TRACE".toList]).1 =
        [handlerNamed "t".toList, handlerNamed "Trace".toList] := rfl
  have hreg : handlerNamed "Trace".toList ∈ (PragmaHandler.registerAll []
      [handlerNamed "t".toList, handlerNamed "Trace".toList, handlerNamed "TRACE".toList]).1 := by
    rw [hall]
    exact List.mem_cons_of_mem _ List.mem_cons_self
  have hword : ∀ c ∈ "tRACE".toList, isWord c = true := List.all_eq_true.1 (by decide)
  have hascii : "Trace".toList.all (fun c => decide (c.toNat < 0x80)) = true := by decide
  have hkey : ',' ∉ " level ".toList := by decide
  have hline : '\n' ∉ params " level ".toList (some "(a, b)".toList) := by decide
  have ho : IsOption "Trace".toList := ⟨'T', "race".toList, rfl, rfl, by decide⟩
  exact ⟨hreg, hword, hkey, hline,
    (reaches_iff hreg hword hkey hline).2 ho
      (fun c hc => of_decide_eq_true (List.all_eq_true.1 hascii c hc)) (by decide) (by decide)⟩

/-- The pragmas of two handlers that are registered. The first has a name of one character, and its
pragma is a line of a body. The second has a letter in its name that is not one of a to z, and
nobody handles its option. -/
theorem not_reached :
    (PragmaHandler.registerAll [] [handlerNamed "t".toList, handlerNamed "träce".toList]).2 =
        [none, none] ∧
      LineRule.classify (line "t".toList "level".toList none) = none ∧
      LineRule.classify (line "träce".toList "level".toList none) =
        some (.pragma ⟨"TRÄCE".toList, "LEVEL".toList, none⟩) ∧
      Directive.process ⟨"TRÄCE".toList, "LEVEL".toList, none⟩
          (PragmaHandler.registerAll []
            [handlerNamed "t".toList, handlerNamed "träce".toList]).1 .unknown =
        .error ⟨.unhandledPragmaOption "TRÄCE".toList, .unknown⟩ := by
  decide +kernel

end Pragma

end ScriptScan
