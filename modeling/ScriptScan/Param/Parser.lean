import ScriptScan.Param
import ScriptScan.Text.Keyword
import ScriptScan.Text.Literal

/-!
# Parameter lists

The text between the parentheses of a declaration. It is cut into items at the commas that stand
outside quotes and brackets; an item is any number of modifiers, a name, and perhaps an equals sign
with a default value. Items are read from the left, and the first one that is not of this form
decides the error.
-/

namespace ScriptScan

/-- Why a parameter list cannot be read. Positions count from one. -/
inductive ParamError where
  /-- Nothing stands between two commas. -/
  | empty (position : Nat)
  /-- An item is not modifiers, a name and perhaps a default value. -/
  | invalid (position : Nat) (text : Text)
  /-- An item has a modifier twice. -/
  | repeatedModifier (position : Nat) (modifier : Text)
  /-- An equals sign with no value after it. -/
  | emptyDefault (position : Nat)
deriving DecidableEq, Repr

namespace ParamError

/-- The position of the item at fault. -/
def position : ParamError → Nat
  | empty n => n
  | invalid n _ => n
  | repeatedModifier n _ => n
  | emptyDefault n => n

/-- The message for the reader of the script. -/
def message : ParamError → Text
  | empty n => "Empty parameter at position ".toList ++ Text.ofNat n ++ ['.']
  | invalid n text =>
    "Invalid parameter \"".toList ++ text ++ "\" at position ".toList ++ Text.ofNat n ++ ['.']
  | repeatedModifier n modifier =>
    "Modifier \"".toList ++ modifier ++ "\" repeated in parameter ".toList ++ Text.ofNat n ++ ['.']
  | emptyDefault n => "Missing default value for parameter ".toList ++ Text.ofNat n ++ ['.']

end ParamError

namespace Param

/-! ## Items -/

/-- Where a reader of items stands: inside quotes, or outside them at some depth of brackets. -/
structure ItemState where
  literal : Literal := .outside
  depth : Nat := 0
deriving DecidableEq, Repr

namespace ItemState

/-- Whether a comma met here ends the item. -/
def atTop (s : ItemState) : Bool :=
  s.literal == .outside && s.depth == 0

/-- The state after one more character. A closing bracket that nothing opened is ignored. -/
def step (s : ItemState) (c : Char) : ItemState :=
  { literal := s.literal.step c
    depth :=
      if s.literal ≠ .outside then s.depth
      else if c = '(' ∨ c = '[' ∨ c = '\x7b' then s.depth + 1
      else if c = ')' ∨ c = ']' ∨ c = '\x7d' then s.depth - 1
      else s.depth }

end ItemState

/-- The pieces between the commas that stand outside quotes and brackets. -/
def splitItems : ItemState → Text → List Text
  | _, [] => [[]]
  | s, c :: t =>
    if s.atTop ∧ c = ',' then [] :: splitItems {} t
    else
      match splitItems (s.step c) t with
      | [] => [[c]]
      | p :: ps => (c :: p) :: ps

/-- The items of a parameter list, without the white space around them. Empty items are kept. -/
def items (text : Text) : List Text :=
  (splitItems {} text).map Text.trim

/-! ## Modifiers and names -/

/-- A modifier as it was written, and the text after the white space that follows it. -/
def readModifier? (t : Text) : Option (Text × Text) :=
  let t := t.trimStart
  match Text.dropOneOf? t ["byref".toList, "const".toList] with
  | none => none
  | some rest => rest.dropBlanks?.map fun after => (t.take (t.length - rest.length), after)

/-- A parameter name: perhaps a dollar sign, then a letter or underscore, then letters, digits and
underscores. -/
def readName? (t : Text) : Option Text :=
  let bare := match t with
    | '$' :: name => name
    | name => name
  match bare with
  | [] => none
  | c :: cs =>
    if startsName c && cs.all (fun d => startsName d || d.isDigit) then some bare else none

/-- What stands before the name of a parameter. -/
structure Modifiers where
  byRef : Bool := false
  isConst : Bool := false
deriving DecidableEq, Repr

/-- A modifier takes at least one character. -/
theorem length_of_readModifier? {t word rest : Text} (h : readModifier? t = some (word, rest)) :
    rest.length < t.length := by
  have hs := Text.length_trimStart_le t
  unfold readModifier? at h
  simp only at h
  split at h
  · simp at h
  · rename_i mid hm
    have hm' := Text.length_of_dropOneOf? hm
    obtain ⟨after, ha, he⟩ := Option.map_eq_some_iff.1 h
    have := Text.length_of_dropBlanks? ha
    cases he
    omega

/-- All modifiers at the start of a text, and the rest; or the modifier that comes twice. -/
def readModifiers (seen : Modifiers) (t : Text) : Except Text (Modifiers × Text) :=
  match h : readModifier? t with
  | none => .ok (seen, t)
  | some (word, rest) =>
    have := length_of_readModifier? h
    if Text.sameIgnoringCase word "byref".toList then
      if seen.byRef then .error word else readModifiers { seen with byRef := true } rest
    else
      if seen.isConst then .error word else readModifiers { seen with isConst := true } rest
termination_by t.length

/-! ## Parameters -/

/-- The parameter that an item declares. -/
def readItem (position : Nat) (item : Text) : Except ParamError Param :=
  if item.isEmpty then .error (.empty position)
  else
    match Literal.outside.splitOutside? '=' item with
    | none => finish item none
    | some (head, value) =>
      if value.isBlankText then .error (.emptyDefault position)
      else finish head.trim (some value.trim)
where
  /-- The modifiers and the name before the default value. -/
  finish (head : Text) (default? : Option Text) : Except ParamError Param :=
    match readModifiers {} head with
    | .error word => .error (.repeatedModifier position word)
    | .ok (ms, rest) =>
      match readName? rest.trim with
      | none => .error (.invalid position item)
      | some name => .ok ⟨Variable.ofText name, ms.byRef, ms.isConst, default?⟩

/-- The parameters that some items declare, the first of them at the given position. -/
def readItems (position : Nat) : List Text → Except ParamError (List Param)
  | [] => .ok []
  | item :: rest =>
    match readItem position item with
    | .error e => .error e
    | .ok p =>
      match readItems (position + 1) rest with
      | .error e => .error e
      | .ok ps => .ok (p :: ps)

/-- The parameters between the parentheses of a declaration. Blank text declares none. -/
def parseList (text : Text) : Except ParamError (List Param) :=
  if text.isBlankText then .ok [] else readItems 1 (items text)

end Param

end ScriptScan
