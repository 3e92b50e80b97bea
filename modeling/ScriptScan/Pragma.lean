import ScriptScan.Fault
import ScriptScan.Text.Keyword

/-!
# Pragmas

A pragma names an option, a key and perhaps a value. The option compile belongs to the scanner,
which knows its keys and does nothing with them yet; every other option belongs to the handler that
is registered for it. At most one handler is asked, and at most that one runs.
-/

namespace ScriptScan

/-! ## Directives -/

/-- What a pragma says. Option and key are in upper case. -/
structure Directive where
  option : Text
  key : Text
  value? : Option Text
deriving DecidableEq, Repr

namespace Directive

/-- The text between an opening parenthesis and the last closing one on the same line. -/
def readParens? : Text → Option Text
  | '(' :: t => (Text.splitLast? ')' (t.takeWhile (· ≠ '\n'))).map (·.1)
  | _ => none

/-- The directive of an option and the text between its parentheses. What follows the first comma
is the value. -/
def ofParams (option params : Text) : Directive :=
  match params.splitFirst? ',' with
  | some (key, value) => ⟨option.upper, key.key, some value.trim⟩
  | none => ⟨option.upper, params.key, none⟩

/-- The directive that a line begins with: the word #pragma, white space, an option of at least two
characters, and perhaps parentheses. -/
def read? (line : Text) : Option Directive := do
  let t ← line.dropKeyword? "#pragma".toList
  let t ← t.dropBlanks?
  let (option, t) ← t.takeName?
  if option.length < 2 then none
  else some (ofParams option ((readParens? t.trimStart).getD []))

end Directive

/-! ## Handlers -/

/-- Handles the pragmas of one option. -/
structure PragmaHandler where
  /-- The option. -/
  name : Text
  /-- Whether it handles a key. -/
  accepts : Text → Bool
  /-- Handles a key and perhaps a value, at a place in the source. -/
  handle : Span → Text → Option Text → Except Fault Unit

namespace PragmaHandler

/-- Whether the handler is the one for an option. -/
def claims (h : PragmaHandler) (option : Text) : Bool :=
  Text.sameIgnoringCase h.name option

/-- Registers a handler after others. Two handlers cannot claim one option. -/
def register (hs : List PragmaHandler) (h : PragmaHandler) : Except Fault (List PragmaHandler) :=
  if hs.any (·.claims h.name) then .error ⟨.duplicatePragmaHandler h.name, .unknown⟩
  else .ok (hs ++ [h])

/-- Registers handlers one after the other. The answer tells which of them remain, and for each of
them whether it was refused. -/
def registerAll (hs : List PragmaHandler) :
    List PragmaHandler → List PragmaHandler × List (Option Fault)
  | [] => (hs, [])
  | h :: rest =>
    match register hs h with
    | .ok hs' =>
      let (all, answers) := registerAll hs' rest
      (all, none :: answers)
    | .error f =>
      let (all, answers) := registerAll hs rest
      (all, some f :: answers)

end PragmaHandler

/-! ## Dispatch -/

/-- Who a directive belongs to. -/
inductive Dispatch where
  /-- The scanner itself; the key is known or not. -/
  | builtin (known : Bool)
  /-- A handler that accepts the key. -/
  | accepted (h : PragmaHandler)
  /-- A handler that does not accept the key. -/
  | refused (h : PragmaHandler)
  /-- Nobody. -/
  | unclaimed

namespace Directive

/-- The option that belongs to the scanner. -/
def compileOption : Text := "COMPILE".toList

/-- The keys of the option that belongs to the scanner. -/
def compileKeys : List Text :=
  ["OUT".toList, "ICON".toList, "EXECLEVEL".toList, "UPX".toList, "AUTOITEXECUTEALLOWED".toList,
   "CONSOLE".toList, "COMPRESSION".toList, "COMPATIBILITY".toList, "X64".toList,
   "INPUTBOXRES".toList, "COMMENTS".toList, "COMPANYNAME".toList, "FILEDESCRIPTION".toList,
   "FILEVERSION".toList, "INTERNALNAME".toList, "LEGALCOPYRIGHT".toList,
   "LEGALTRADEMARKS".toList, "ORIGINALFILENAME".toList, "PRODUCTNAME".toList,
   "PRODUCTVERSION".toList]

/-- Finds who the directive belongs to. -/
def dispatch (d : Directive) (hs : List PragmaHandler) : Dispatch :=
  if d.option = compileOption then .builtin (compileKeys.contains d.key)
  else
    match hs.find? (·.claims d.option) with
    | some h => if h.accepts d.key then .accepted h else .refused h
    | none => .unclaimed

end Directive

namespace Dispatch

/-- The handler that is asked about the key. -/
def asked? : Dispatch → Option PragmaHandler
  | accepted h => some h
  | refused h => some h
  | builtin _ => none
  | unclaimed => none

/-- The handler that runs. -/
def ran? : Dispatch → Option PragmaHandler
  | accepted h => some h
  | refused _ => none
  | builtin _ => none
  | unclaimed => none

/-- Carries out a directive that stands at the given place. -/
def carryOut (d : Directive) (span : Span) : Dispatch → Except Fault Unit
  | builtin true => .error ⟨.notYetImplemented "compile".toList, span⟩
  | builtin false => .error ⟨.unhandledPragmaKey d.key d.option, span⟩
  | accepted h => h.handle span d.key d.value?
  | refused _ => .error ⟨.unhandledPragmaKey d.key d.option, span⟩
  | unclaimed => .error ⟨.unhandledPragmaOption d.option, span⟩

end Dispatch

/-- Processes a directive that stands at the given place. -/
def Directive.process (d : Directive) (hs : List PragmaHandler) (span : Span) : Except Fault Unit :=
  (d.dispatch hs).carryOut d span

end ScriptScan
