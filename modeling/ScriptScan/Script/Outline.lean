import ScriptScan.Script
import ScriptScan.Line.Rule
import ScriptScan.Param.Parser

/-!
# Outlines

The outline of a script grows line by line. Each line is classified; a line that no rule reads goes
to the body of the function that is open, or to the main function if none is. The first line that
breaks a rule of the language is a fault, and ends the reading.
-/

namespace ScriptScan

/-- What a script is read with. -/
structure ScanContext where
  /-- Whether jump labels are refused. -/
  strict : Bool
  handlers : List PragmaHandler
  /-- Reads the text between the parentheses of a declaration; the error is a message. -/
  parseParams : Text → Except Text (List Param)
  /-- The functions of the scripts that are known already, by their keys. -/
  known : Text → Option Func

/-- The grammar of parameter lists that is used unless another one is given. -/
def ScanContext.defaultParams (text : Text) : Except Text (List Param) :=
  match Param.parseList text with
  | .ok ps => .ok ps
  | .error e => .error e.message

/-! ## Parameter rules -/

namespace Param

/-- The first parameter with the name of one before it. -/
def firstRepeated? (seen : List Text) : List Param → Option Param
  | [] => none
  | p :: ps => if seen.contains p.var.key then some p else firstRepeated? (p.var.key :: seen) ps

/-- What is wrong with the first parameter that is passed by reference and has a default, or has no
default behind one that has; `position` is the position of the first one. -/
def firstMisplaced? (optionalSeen : Bool) (position : Nat) : List Param → Option Cause
  | [] => none
  | p :: ps =>
    if p.byRef && p.isOptional then some (.byRefDefault p.var)
    else if optionalSeen && !p.isOptional then some (.missingDefault position p.var)
    else firstMisplaced? (optionalSeen || p.isOptional) (position + 1) ps

/-- What is wrong with a parameter list, if anything. Repeated names come before all else. -/
def check (ps : List Param) : Option Cause :=
  match firstRepeated? [] ps with
  | some p => some (.duplicateParam p.var)
  | none => firstMisplaced? false 1 ps

end Param

/-- The function that a header declares, without any lines. -/
def FuncDecl.ofHeader (h : FuncHeader) (script : Path) (span : Span) (params : List Param) :
    FuncDecl :=
  { name := h.name, script, declaredAt := span, params, isVolatile := h.isVolatile }

/-! ## Outlines -/

/-- The part of a script that is read so far. -/
structure Outline where
  path : Path
  main : FuncDecl
  /-- The function that is begun and not ended. -/
  open? : Option FuncDecl := none
  /-- The functions that are ended, under the keys of their names and in source order. -/
  closed : List (Text × FuncDecl) := []
  startup : List Hook := []
  exit : List Hook := []
  includeOnce : Bool := false

namespace Outline

/-- The outline of a script of which nothing is read yet. -/
def empty (path : Path) : Outline :=
  { path, main := .main path }

/-- The function that a body line belongs to. -/
def current (o : Outline) : FuncDecl :=
  o.open?.getD o.main

/-- The outline with another current function. -/
def setCurrent (o : Outline) (f : FuncDecl) : Outline :=
  match o.open? with
  | some _ => { o with open? := some f }
  | none => { o with main := f }

/-- Where the name of a function is taken: by an ended function of this script, or by a function of
another one. An earlier reading of this very script does not count. -/
def priorDeclaration? (o : Outline) (ctx : ScanContext) (key : Text) : Option Span :=
  match o.closed.lookup key with
  | some f => some f.declaredAt
  | none =>
    match ctx.known key with
    | some (.declared f) => if f.script.same o.path then none else some f.span
    | some (.host _) => some .unknown
    | none => none

/-- Begins a function. -/
def beginFunc (o : Outline) (ctx : ScanContext) (h : FuncHeader) (span : Span) :
    Except Cause Outline :=
  match o.open? with
  | some f => .error (.nestedFunc f.name)
  | none =>
    if isReservedName h.name then .error (.reservedName h.name)
    else
      match o.priorDeclaration? ctx h.name.key with
      | some prior => .error (.duplicateFunc h.name prior)
      | none =>
        match ctx.parseParams h.params with
        | .error reason => .error (.unparsableParams h.params reason)
        | .ok params =>
          match Param.check params with
          | some cause => .error cause
          | none => .ok { o with open? := some (.ofHeader h o.path span params) }

/-- Ends the function that is open. -/
def endFunc (o : Outline) : Except Cause Outline :=
  match o.open? with
  | none => .error .strayEndFunc
  | some f => .ok { o with open? := none, closed := o.closed ++ [(f.name.key, f)] }

/-- Puts a label into the current function. -/
def addLabel (o : Outline) (ctx : ScanContext) (name : Text) (span : Span) : Except Cause Outline :=
  if ctx.strict then .error .jumpLabel
  else
    match o.current.label? name with
    | some prior => .error (.duplicateLabel name prior.span)
    | none => .ok (o.setCurrent (o.current.addLabel name span))

/-- Reads what one line says. -/
def accept (o : Outline) (ctx : ScanContext) (form : LineForm) (span : Span) :
    Except Fault Outline :=
  match form with
  | .includeOnce => .ok { o with includeOnce := true }
  | .startupHook func => .ok { o with startup := o.startup ++ [⟨func, span⟩] }
  | .exitHook func => .ok { o with exit := o.exit ++ [⟨func, span⟩] }
  | .pragma d => (d.process ctx.handlers span).map fun _ => o
  | .func h => (o.beginFunc ctx h span).mapError (⟨·, span⟩)
  | .endFunc => o.endFunc.mapError (⟨·, span⟩)
  | .label name => (o.addLabel ctx name span).mapError (⟨·, span⟩)

/-- Reads one line. -/
def step (ctx : ScanContext) (o : Outline) (l : LogicalLine) : Except Fault Outline :=
  match LineRule.classify l.text with
  | some form => o.accept ctx form l.span
  | none => .ok (o.setCurrent (o.current.addLine l))

/-- Reads some lines. -/
def run (ctx : ScanContext) (o : Outline) : List LogicalLine → Except Fault Outline
  | [] => .ok o
  | l :: ls =>
    match step ctx o l with
    | .error f => .error f
    | .ok o' => run ctx o' ls

/-- The functions of the script: those that are ended, and the main function. -/
def functions (o : Outline) : FuncTable :=
  (o.closed ++ [(o.main.name.key, o.main)]).map fun (key, f) => (key, .declared f)

/-- Ends the script, which had the given number of physical lines. A function that is still open is
a fault behind the last of them. -/
def finish (o : Outline) (physicalCount : Nat) : Except Fault Script :=
  match o.open? with
  | some f => .error ⟨.unclosedFunc f.name, .line o.path.text (physicalCount + 1)⟩
  | none =>
    .ok (Script.make o.path o.functions o.startup o.exit o.includeOnce)

end Outline

/-- The script that a source declares. -/
def Script.ofSource (ctx : ScanContext) (path : Path) (source : LogicalSource) :
    Except Fault Script :=
  match Outline.run ctx (.empty path) source.lines with
  | .error f => .error f
  | .ok o => o.finish source.physicalCount

/-! ## Pragma calls -/

/-- A run of a pragma handler: which one, where, and with what. -/
structure PragmaCall where
  handler : Text
  span : Span
  key : Text
  value? : Option Text
deriving DecidableEq, Repr

/-- The handler run that a line leads to, if it is a pragma that a handler accepts. -/
def LogicalLine.pragmaCall? (ctx : ScanContext) (l : LogicalLine) : Option PragmaCall :=
  match LineRule.classify l.text with
  | some (.pragma d) =>
    (d.dispatch ctx.handlers).ran?.map fun h => ⟨h.name, l.span, d.key, d.value?⟩
  | _ => none

/-- The handler runs that reading some lines leads to, in order, up to and including the line at
which the reading ends. -/
def Outline.pragmaCalls (ctx : ScanContext) (o : Outline) : List LogicalLine → List PragmaCall
  | [] => []
  | l :: ls =>
    (l.pragmaCall? ctx).toList ++
      match step ctx o l with
      | .error _ => []
      | .ok o' => pragmaCalls ctx o' ls

end ScriptScan
