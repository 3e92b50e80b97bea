/-!
# Sets of characters

A property of characters that a standard fixes by a table is kept as the increasing list of code
points at which membership changes. Membership of one character is then a walk along that list,
which for the characters met most ends after a few steps.
-/

namespace ScriptScan

/-- A set of characters: the code points, in increasing order, at which membership changes.
Below the first of them no character is a member. -/
structure CharSet where
  changes : List Nat

namespace CharSet

/-- Membership after passing those of `changes` that are not above `n`, starting from `here`. -/
def memberAt (n : Nat) (here : Bool) : List Nat → Bool
  | [] => here
  | k :: ks => if k ≤ n then memberAt n (!here) ks else here

/-- Whether the character is a member. -/
def contains (s : CharSet) (c : Char) : Bool :=
  memberAt c.toNat false s.changes

end CharSet

end ScriptScan
