import ScriptScan.Text.Basic
import ScriptScan.Text.Word

/-!
# Keywords and names

The readers that every line rule is made of. A reader takes a text, and answers with what it has
read and the rest, or with nothing. Letter case never matters, and it is folded as Unicode folds
it: the long s is a letter s, and the Kelvin sign a letter k.
-/

namespace ScriptScan

/-- Whether `c` is the lower-case character `k`, in any letter case. -/
def foldsTo (k c : Char) : Bool :=
  c.toLower == k || (k == 's' && c == '\u017f') || (k == 'k' && c == '\u212a')

/-- Whether the character may begin a name: an underscore or a letter a to z in any case. -/
def startsName (c : Char) : Bool :=
  c == '_' || c.isAlpha || c == '\u017f' || c == '\u212a'

namespace Text

/-- The rest after a keyword, given in lower case. -/
def dropKeyword? : Text → (keyword : Text) → Option Text
  | t, [] => some t
  | [], _ :: _ => none
  | c :: t, k :: ks => if foldsTo k c then dropKeyword? t ks else none

/-- The rest after an exact character. -/
def dropChar? (x : Char) : Text → Option Text
  | [] => none
  | c :: t => if c = x then some t else none

/-- Whether the text does not go on with a word character. -/
def endsWord : Text → Bool
  | [] => true
  | c :: _ => !isWord c

/-- The rest after a keyword that is not the beginning of a longer word. -/
def dropWholeWord? (t keyword : Text) : Option Text :=
  match t.dropKeyword? keyword with
  | some rest => if endsWord rest then some rest else none
  | none => none

/-- The rest after at least one white-space character and all that follow it. -/
def dropBlanks? : Text → Option Text
  | [] => none
  | c :: t => if isBlank c then some (trimStart t) else none

/-- A name, as long as it goes: a character that may begin one, and the word characters after
it. -/
def takeName? : Text → Option (Text × Text)
  | [] => none
  | c :: t => if startsName c then some (c :: t.takeWhile isWord, t.dropWhile isWord) else none

/-- The first of some keywords that the text begins with, and the rest after it. -/
def dropOneOf? (t : Text) (keywords : List Text) : Option Text :=
  keywords.findSome? fun k => t.dropKeyword? k

/-! ## A rest is never longer -/

theorem length_trimStart_le (t : Text) : t.trimStart.length ≤ t.length :=
  (List.dropWhile_suffix isBlank).length_le

theorem length_of_dropKeyword? {t k rest : Text} (h : t.dropKeyword? k = some rest) :
    rest.length + k.length = t.length := by
  fun_induction dropKeyword? t k with
  | case1 t => cases h; simp
  | case2 => simp at h
  | case3 c t x k _ ih =>
    have := ih h
    simp only [List.length_cons]
    omega
  | case4 => simp at h

theorem length_of_dropBlanks? {t rest : Text} (h : t.dropBlanks? = some rest) :
    rest.length < t.length := by
  cases t with
  | nil => simp [dropBlanks?] at h
  | cons c t =>
    simp only [dropBlanks?] at h
    split at h
    · cases h
      have := length_trimStart_le t
      simp only [List.length_cons]
      omega
    · simp at h

theorem length_of_dropOneOf? {ks : List Text} {t rest : Text} (h : t.dropOneOf? ks = some rest) :
    rest.length ≤ t.length := by
  obtain ⟨k, _, hk⟩ := List.exists_of_findSome?_eq_some h
  have := length_of_dropKeyword? hk
  omega

end Text

end ScriptScan
