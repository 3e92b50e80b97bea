import ScriptScan.Span
import ScriptScan.Param

/-!
# Faults

What can be wrong with a script, and where. A cause carries what its message names; the key by
which a host looks up a translated message and the arguments of that message are functions of it.
-/

namespace ScriptScan

/-- What is wrong. -/
inductive Cause where
  /-- No source was found for a requested script. -/
  | unresolvedScript (request : Text)
  /-- The last line of the source asks to be continued. -/
  | danglingContinuation
  /-- A one-line function in strict mode. -/
  | oneLineFunc
  /-- A jump label in strict mode. -/
  | jumpLabel
  /-- A function is named like a keyword. -/
  | reservedName (name : Text)
  /-- A function is declared inside another one, which is still open. -/
  | nestedFunc (openFunc : Text)
  /-- The end of a function where none is open. -/
  | strayEndFunc
  /-- The source ends inside a function. -/
  | unclosedFunc (openFunc : Text)
  /-- The name of a function is taken, by the function at the given place. -/
  | duplicateFunc (name : Text) (prior : Span)
  /-- Two parameters of a function have one name. -/
  | duplicateParam (v : Variable)
  /-- A function has the label already, at the given place. -/
  | duplicateLabel (name : Text) (prior : Span)
  /-- A parameter passed by reference has a default value. -/
  | byRefDefault (v : Variable)
  /-- A parameter without a default value follows one with a default value. -/
  | missingDefault (position : Nat) (v : Variable)
  /-- The text between the parentheses of a declaration is not a parameter list. -/
  | unparsableParams (text reason : Text)
  /-- A pragma has an option that is known and a key that is not. -/
  | unhandledPragmaKey (key option : Text)
  /-- Nobody handles the option of a pragma. -/
  | unhandledPragmaOption (option : Text)
  /-- Two pragma handlers claim one option. -/
  | duplicatePragmaHandler (name : Text)
  /-- A feature that is recognised and has no effect yet. -/
  | notYetImplemented (feature : Text)
  /-- A hook names a function that the script does not have. -/
  | unresolvedHook (name : Text)
  /-- A hook names a function that cannot be called without arguments. -/
  | hookArity (func : Text)
  /-- A fault raised by the host, under a key and with arguments of its own. -/
  | raised (key : Text) (args : List Text)
deriving DecidableEq, Repr

namespace Cause

/-- The keys of the causes that the scanner itself finds. -/
def knownKeys : List Text :=
  ["error.unresolved_script".toList, "error.unexpected_line_cont".toList,
   "error.experimental.one_liner".toList, "error.experimental.goto_instructions".toList,
   "error.reserved_name".toList, "error.unexpected_func".toList,
   "error.unexpected_endfunc".toList, "error.unexpected_eof".toList,
   "error.duplicate_function".toList, "error.duplicate_param".toList,
   "error.duplicate_jumplabel".toList, "error.byref_default".toList,
   "error.missing_default".toList, "error.unparsable_line".toList,
   "error.unhandled_pragma_key".toList, "error.unhandled_pragma_option".toList,
   "error.duplicate_pragma_processor".toList, "error.not_yet_implemented".toList,
   "error.unresolved_func".toList, "error.register_func_argcount".toList]

/-- The key under which the message of a cause is looked up. -/
def key : Cause → Text
  | unresolvedScript _ => "error.unresolved_script".toList
  | danglingContinuation => "error.unexpected_line_cont".toList
  | oneLineFunc => "error.experimental.one_liner".toList
  | jumpLabel => "error.experimental.goto_instructions".toList
  | reservedName _ => "error.reserved_name".toList
  | nestedFunc _ => "error.unexpected_func".toList
  | strayEndFunc => "error.unexpected_endfunc".toList
  | unclosedFunc _ => "error.unexpected_eof".toList
  | duplicateFunc _ _ => "error.duplicate_function".toList
  | duplicateParam _ => "error.duplicate_param".toList
  | duplicateLabel _ _ => "error.duplicate_jumplabel".toList
  | byRefDefault _ => "error.byref_default".toList
  | missingDefault _ _ => "error.missing_default".toList
  | unparsableParams _ _ => "error.unparsable_line".toList
  | unhandledPragmaKey _ _ => "error.unhandled_pragma_key".toList
  | unhandledPragmaOption _ => "error.unhandled_pragma_option".toList
  | duplicatePragmaHandler _ => "error.duplicate_pragma_processor".toList
  | notYetImplemented _ => "error.not_yet_implemented".toList
  | unresolvedHook _ => "error.unresolved_func".toList
  | hookArity _ => "error.register_func_argcount".toList
  | raised key _ => key

/-- The arguments of the message of a cause. -/
def args : Cause → List Text
  | unresolvedScript request => [request]
  | danglingContinuation => []
  | oneLineFunc => []
  | jumpLabel => []
  | reservedName name => [name]
  | nestedFunc openFunc => [openFunc]
  | strayEndFunc => []
  | unclosedFunc openFunc => [openFunc]
  | duplicateFunc name prior => [name, prior.display]
  | duplicateParam v => [v.display]
  | duplicateLabel name prior => [name, prior.display]
  | byRefDefault v => [v.display]
  | missingDefault position v => [Text.ofNat position, v.display]
  | unparsableParams text reason => [text, reason]
  | unhandledPragmaKey key option => [key, option]
  | unhandledPragmaOption option => [option]
  | duplicatePragmaHandler name => [name]
  | notYetImplemented feature => [feature]
  | unresolvedHook name => [name]
  | hookArity func => [func]
  | raised _ args => args

end Cause

/-- Something wrong, and where. -/
structure Fault where
  cause : Cause
  span : Span
deriving DecidableEq, Repr

namespace Fault

/-- The key of the fault. -/
def key (f : Fault) : Text :=
  f.cause.key

/-- The arguments of the fault. -/
def args (f : Fault) : List Text :=
  f.cause.args

/-- Whether two faults say the same about the same place. -/
def same (f g : Fault) : Bool :=
  f.key == g.key && f.span == g.span && f.args == g.args

/-- The written form of a fault: its key, its place and its arguments. -/
def display (f : Fault) : Text :=
  f.key ++ " at ".toList ++ f.span.display ++
    if f.args.isEmpty then [] else ": ".toList ++ Text.commaList f.args

end Fault

end ScriptScan
