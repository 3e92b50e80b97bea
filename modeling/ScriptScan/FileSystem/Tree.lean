import ScriptScan.Text.Basic

/-!
# Trees of files

What a file system holds is a list of entries, each of them at a place. The entries form a tree: no
place has two of them, each stands in a directory, and each is named. Putting something at a place
that is not a directory, and clearing a place with all that is below it, keep them a tree.

There are files, directories and symbolic links. A file may be there and yet not be readable, for
whatever reason; every directory can be entered and listed.
-/

namespace ScriptScan

/-- A place: the names that lead to it from the root. -/
abbrev Place := List Text

/-- Whether a text can be the name of an entry. -/
def isName (t : Text) : Bool :=
  !t.isEmpty && t ≠ ['.'] && t ≠ ['.', '.'] && '/' ∉ t

/-- What reading a file comes to. -/
inductive FileContent where
  | bytes (bytes : List UInt8)
  /-- The file cannot be read, and why. -/
  | unreadable (reason : Text)
deriving DecidableEq, Repr

/-- What stands at a place. -/
inductive Node where
  | file (content : FileContent)
  | directory
  | link (target : Text)
deriving DecidableEq, Repr

/-- What stands at a place, if the given entries are all there is. The root is a directory. -/
def nodeIn (nodes : List (Place × Node)) (p : Place) : Option Node :=
  if p.isEmpty then some .directory else nodes.lookup p

/-- Entries that form a tree: no place has two of them, each stands in a directory, and the names
on the way to it can be names. -/
structure IsTree (nodes : List (Place × Node)) : Prop where
  nodup : (nodes.map (·.1)).Nodup
  ne_root : ∀ e ∈ nodes, e.1 ≠ []
  names : ∀ e ∈ nodes, e.1.all isName = true
  parent : ∀ e ∈ nodes, nodeIn nodes e.1.dropLast = some .directory

/-! ## Trees stay trees -/

/-- Entries that are left out do not change what stands at the others' places. -/
theorem nodeIn_filter (keep : Place → Bool) (nodes : List (Place × Node)) {p : Place}
    (h : keep p = true) : nodeIn (nodes.filter (keep ·.1)) p = nodeIn nodes p := by
  unfold nodeIn
  split
  · rfl
  · induction nodes with
    | nil => rfl
    | cons e nodes ih =>
      obtain ⟨q, n⟩ := e
      by_cases hq : p = q
      · subst hq
        simp [h]
      · have hq' : (p == q) = false := by simpa using hq
        cases hk : keep q <;> simp [hk, List.lookup_cons, hq', ih]

namespace IsTree

variable {nodes : List (Place × Node)}

/-- A place that is not a directory may be given to something else. -/
theorem replace (h : IsTree nodes) {p : Place} (node : Node) (hp : p ≠ [])
    (hnames : p.all isName = true) (hparent : nodeIn nodes p.dropLast = some .directory)
    (hfree : nodeIn nodes p ≠ some .directory) :
    IsTree (nodes.filter (·.1 ≠ p) ++ [(p, node)]) := by
  have hold : ∀ q, nodeIn nodes q = some .directory →
      nodeIn (nodes.filter (·.1 ≠ p) ++ [(p, node)]) q = some .directory := by
    intro q hq
    have hqp : q ≠ p := fun e => hfree (e ▸ hq)
    have hf := nodeIn_filter (fun q => decide (q ≠ p)) nodes (decide_eq_true hqp)
    rw [hq] at hf
    unfold nodeIn at hf ⊢
    split
    · rfl
    · rename_i hne
      rw [if_neg hne] at hf
      rw [List.lookup_append, hf]
      rfl
  constructor
  · rw [List.map_append, List.nodup_append]
    refine ⟨h.nodup.sublist (List.filter_sublist.map _), by simp, ?_⟩
    intro a ha b hb hab
    simp only [List.mem_map, List.mem_filter, List.mem_singleton] at ha hb
    obtain ⟨e, ⟨_, he⟩, rfl⟩ := ha
    obtain ⟨_, rfl, rfl⟩ := hb
    simp_all
  · intro e he
    rcases List.mem_append.1 he with he | he
    · exact h.ne_root e (List.mem_filter.1 he).1
    · rw [List.mem_singleton] at he
      subst he
      exact hp
  · intro e he
    rcases List.mem_append.1 he with he | he
    · exact h.names e (List.mem_filter.1 he).1
    · rw [List.mem_singleton] at he
      subst he
      exact hnames
  · intro e he
    rcases List.mem_append.1 he with he | he
    · exact hold _ (h.parent e (List.mem_filter.1 he).1)
    · rw [List.mem_singleton] at he
      subst he
      exact hold _ hparent

/-- A place may be cleared with everything below it. -/
theorem prune (h : IsTree nodes) (p : Place) :
    IsTree (nodes.filter fun e => !p.isPrefixOf e.1) := by
  constructor
  · exact h.nodup.sublist (List.filter_sublist.map _)
  · exact fun e he => h.ne_root e (List.mem_filter.1 he).1
  · exact fun e he => h.names e (List.mem_filter.1 he).1
  · intro e he
    obtain ⟨he, hk⟩ := List.mem_filter.1 he
    -- the parent stays: what stands above it stands above the entry too
    rw [nodeIn_filter (fun q => !p.isPrefixOf q)]
    · exact h.parent e he
    · simp only [Bool.not_eq_true'] at hk ⊢
      rw [Bool.eq_false_iff] at hk ⊢
      intro hp
      have hp := List.isPrefixOf_iff_prefix.1 hp
      exact hk (List.isPrefixOf_iff_prefix.2 (hp.trans (List.dropLast_prefix _)))

end IsTree

end ScriptScan
