import ScriptScan.Text.Upper

/-!
# Variables, parameters and arity

A variable is named without its leading dollar sign, and two variables are the same when their
names are the same in upper case. A parameter is a variable with modifiers and perhaps a default
value; a function takes at least its parameters without a default and at most all of them.
-/

namespace ScriptScan

/-! ## Variables -/

/-- A variable, by its name without the leading dollar sign. -/
structure Variable where
  name : Text
deriving DecidableEq, Repr, Inhabited

namespace Variable

/-- The variable of a name that may be written with one leading dollar sign. -/
def ofText : Text → Variable
  | '$' :: name => ⟨name⟩
  | name => ⟨name⟩

/-- The form under which variables are compared. -/
def key (v : Variable) : Text :=
  v.name.upper

/-- Whether two names mean the same variable. -/
def same (v w : Variable) : Bool :=
  v.key == w.key

/-- The written form, with the dollar sign. -/
def display (v : Variable) : Text :=
  '$' :: v.name

end Variable

/-! ## Parameters -/

/-- A declared parameter. The default value is kept as it was written. -/
structure Param where
  var : Variable
  byRef : Bool := false
  isConst : Bool := false
  default? : Option Text := none
deriving DecidableEq, Repr, Inhabited

namespace Param

/-- Whether a call may leave the parameter out. -/
def isOptional (p : Param) : Bool :=
  p.default?.isSome

/-- Whether two parameters agree, up to the case of their names. -/
def same (p q : Param) : Bool :=
  p.var.same q.var && p.byRef == q.byRef && p.isConst == q.isConst &&
    p.default? == q.default?

/-- The written form of a parameter: its modifiers, the variable and the default value. -/
def display (p : Param) : Text :=
  (if p.byRef then "ByRef ".toList else []) ++ (if p.isConst then "Const ".toList else []) ++
    p.var.display ++
    match p.default? with
    | some value => " = ".toList ++ value
    | none => []

/-- The written form of a parameter list. -/
def displayList (ps : List Param) : Text :=
  Text.commaList (ps.map display)

end Param

/-! ## Arity -/

/-- How many arguments a function takes. -/
structure Arity where
  min : Nat
  max : Nat
  min_le_max : min ≤ max := by omega
deriving DecidableEq, Repr

namespace Arity

/-- The arity with the given bounds; the maximum is raised to the minimum. -/
def make (least most : Nat) : Arity :=
  ⟨least, Max.max least most, Nat.le_max_left least most⟩

/-- The arity of a parameter list: every parameter without a default is required. -/
def ofParams (ps : List Param) : Arity :=
  make (ps.countP (!·.isOptional)) ps.length

end Arity

end ScriptScan
