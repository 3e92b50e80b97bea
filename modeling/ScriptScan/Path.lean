import ScriptScan.Text.Basic
import ScriptScan.Text.Visible

/-!
# Paths

A path is kept as it was spelled and compared by its components, so that repeated slashes, single
dots in the middle and a slash at the end make no difference. Paths are ordered by their components:
the root first, then the current directory, the parent directory, and names by their characters.
Equal paths have equal digests.

A path is a text: names whose bytes are no UTF-8 have no counterpart here.
-/

namespace ScriptScan

/-! ## Components -/

/-- A component of a path. -/
inductive Component where
  | root
  | current
  | parent
  | name (t : Text)
deriving DecidableEq, Repr

namespace Component

/-- The place of a kind of component in the order. -/
def rank : Component → Nat
  | root => 0
  | current => 1
  | parent => 2
  | name _ => 3

/-- The written form. -/
def text : Component → Text
  | root => ['/']
  | current => ['.']
  | parent => ['.', '.']
  | name t => t

/-- The order by kind, then by the characters of the name. -/
def compare (c d : Component) : Ordering :=
  (Ord.compare c.rank d.rank).then (Ord.compare c.text d.text)

instance : Ord Component := ⟨compare⟩

/-- The component that a piece between two slashes is, if it is not empty or a single dot. -/
def ofPiece? : Text → Option Component
  | [] => none
  | ['.'] => none
  | ['.', '.'] => some parent
  | t => some (name t)

end Component

/-! ## Paths -/

/-- A path, as it was spelled. -/
structure Path where
  text : Text
deriving DecidableEq, Repr, Inhabited

namespace Path

/-- Whether the path begins at the root. -/
def isAbsolute (p : Path) : Bool :=
  p.text.head? == some '/'

/-- Whether the path begins with the current directory, written as a single dot. -/
def startsHere (p : Path) : Bool :=
  (Text.splitOn '/' p.text).head? == some ['.']

/-- The components of the path. A single dot counts only at the beginning. -/
def components (p : Path) : List Component :=
  (if p.isAbsolute then [.root] else if p.startsHere then [.current] else []) ++
    (Text.splitOn '/' p.text).filterMap Component.ofPiece?

/-- Whether two paths have the same components. -/
def same (p q : Path) : Bool :=
  p.components == q.components

/-- The order of paths. -/
def compare (p q : Path) : Ordering :=
  Ord.compare p.components q.components

instance : Ord Path := ⟨compare⟩

/-! ## Digests -/

/-- What a path is hashed by. -/
structure Digest where
  /-- The components, one after the other. -/
  letters : Text
  /-- A word in which the lengths of the components are mixed. -/
  lengths : UInt64
deriving DecidableEq, Repr

/-- The digest of some components. Each of them turns the word that their lengths are mixed in by
two bits. -/
def Digest.ofTexts (ts : List Text) : Digest :=
  ⟨ts.flatten, ts.foldl (fun w t => let w := w + .ofNat t.byteLength; w >>> 2 ||| w <<< 62) 0⟩

/-- The digest of a path. It does not tell whether the path begins at the root. -/
def digest (p : Path) : Digest :=
  .ofTexts ((p.components.filter (· ≠ .root)).map Component.text)

/-! ## Building paths -/

/-- The second path, seen from the first. An absolute path is seen as itself; the empty path adds a
slash at the end. -/
def join (p q : Path) : Path :=
  if q.isAbsolute then q
  else if p.text.isEmpty ∨ p.text.getLast? = some '/' then ⟨p.text ++ q.text⟩
  else ⟨p.text ++ '/' :: q.text⟩

/-- The path followed by some components. -/
def joinAll (p : Path) (cs : List Component) : Path :=
  cs.foldl (fun p c => p.join ⟨c.text⟩) p

/-- The absolute form of a path that nothing is known about, seen from the working directory. Single
dots and repeated slashes go, except that exactly two slashes at the beginning stay, and so does a
slash at the end; a parent directory stays as it is, and so does the empty path. -/
def absolute (workDir p : Path) : Path :=
  let cs := p.components.filter (· ≠ .current)
  let keepsTwo := "//".toList.isPrefixOf p.text && !"///".toList.isPrefixOf p.text
  let base := if keepsTwo then joinAll ⟨"//".toList⟩ (cs.drop 1) else joinAll workDir cs
  if p.text.isEmpty then p
  else if p.text.getLast? = some '/' then base.join ⟨[]⟩
  else base

/-- The path of a place that is reached from the root by the given names. -/
def ofNames (names : List Text) : Path :=
  if names.isEmpty then ⟨['/']⟩ else ⟨names.flatMap ('/' :: ·)⟩

/-! ## Taking paths apart -/

/-- The reversed text of a path without slashes and single dots at its end. -/
def dropTail : Text → Text
  | '/' :: r => dropTail r
  | '.' :: '/' :: r => dropTail r
  | r => r

/-- The path without its last component. -/
def parent? (p : Path) : Option Path :=
  match p.components.getLast? with
  | none | some .root => none
  | some _ =>
    let before := (dropTail ((dropTail p.text.reverse).dropWhile (· ≠ '/'))).reverse
    some (if before.isEmpty ∧ p.isAbsolute then ⟨['/']⟩ else ⟨before⟩)

/-- The extension of the last name: what follows its last dot, if anything precedes it. -/
def extension? (p : Path) : Option Text :=
  match p.components.getLast? with
  | some (.name t) =>
    match Text.splitLast? '.' t with
    | some (before, after) => if before.isEmpty then none else some after
    | none => none
  | _ => none

/-- Whether the path is written like an address, with a scheme. -/
def isAddress (p : Path) : Bool :=
  p.text.includes "://".toList

/-! ## Quoting -/

/-- A character in a quoted path. -/
def quoteChar (c : Char) : Text :=
  match c with
  | '\x00' => ['\\', '0']
  | '\t' => ['\\', 't']
  | '\r' => ['\\', 'r']
  | '\n' => ['\\', 'n']
  | '"' => ['\\', '"']
  | '\\' => ['\\', '\\']
  | c =>
    if isVisible c then [c]
    else "\\u\x7b".toList ++ Nat.toDigits 16 c.toNat ++ ['\x7d']

/-- The path between double quotes, with what cannot be read escaped. -/
def quote (p : Path) : Text :=
  '"' :: p.text.flatMap quoteChar ++ ['"']

end Path

end ScriptScan
