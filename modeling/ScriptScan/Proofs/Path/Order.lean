import Mathlib.Data.List.Nodup
import ScriptScan.Proofs.Path

/-!
# The order of paths

Paths are ordered by their components, and two paths that stand at one place of the order are the
same. So a list of paths in strictly increasing order holds no path twice, in whatever spelling; and
which paths it holds determines it up to their spelling (`Path.Increasing.map_components_eq`).
-/

namespace ScriptScan

/-- Of two elements one stands before the other, or they are equal. -/
theorem isLE_total {α : Type} [Ord α] [Std.OrientedOrd α] (a b : α) :
    ((compare a b).isLE || (compare b a).isLE) = true := by
  have hswap : compare b a = (compare a b).swap := Std.OrientedOrd.eq_swap
  rw [hswap]
  cases compare a b <;> rfl

namespace Component

instance : Std.TransOrd Component :=
  inferInstanceAs (Std.TransCmp (compareLex (compareOn rank) (compareOn text)))

theorem eq_of_compare {c d : Component} (h : Ord.compare c d = .eq) : c = d := by
  obtain ⟨hrank, htext⟩ := Ordering.then_eq_eq.1 h
  have hrank : c.rank = d.rank := Std.LawfulEqCmp.eq_of_compare hrank
  have htext : c.text = d.text := Std.LawfulEqCmp.eq_of_compare htext
  cases c <;> cases d
  case name.name => exact congrArg name htext
  all_goals first | rfl | cases hrank

instance : Std.LawfulEqOrd Component :=
  ⟨eq_of_compare⟩

end Component

namespace Path

variable {p q r : Path} {ps qs : List Path}

instance : Std.TransOrd Path :=
  inferInstanceAs (Std.TransCmp (compareOn components))

theorem compare_eq_iff : Ord.compare p q = .eq ↔ p.same q = true := by
  rw [same_iff]
  show Ord.compare p.components q.components = .eq ↔ p.components = q.components
  exact Std.LawfulEqOrd.compare_eq_iff_eq

theorem lt_of_isLE (h : (Ord.compare p q).isLE = true) (hne : p.same q = false) :
    Ord.compare p q = .lt := by
  rcases Ordering.isLE_iff_eq_lt_or_eq_eq.1 h with hlt | heq
  · exact hlt
  · rw [compare_eq_iff.1 heq] at hne
    cases hne

/-- Whether each path stands before all that are behind it in the list. -/
def Increasing (ps : List Path) : Prop :=
  ps.Pairwise fun p q => Ord.compare p q = .lt

theorem Increasing.apart (h : Increasing ps) : ps.Pairwise fun p q => p.same q = false := by
  refine h.imp ?_
  intro p q hlt
  rw [← Bool.not_eq_true, ← compare_eq_iff, hlt]
  exact nofun

theorem Increasing.nodup_components (h : Increasing ps) : (ps.map components).Nodup := by
  rw [List.Nodup, List.pairwise_map]
  refine h.apart.imp ?_
  intro p q hpq heq
  rw [same_iff.2 heq] at hpq
  cases hpq

/-- Lists in increasing order that hold the same paths are the same, up to the spelling of the
paths. -/
theorem Increasing.map_components_eq (hps : Increasing ps) (hqs : Increasing qs)
    (h : ∀ cs, cs ∈ ps.map components ↔ cs ∈ qs.map components) :
    ps.map components = qs.map components := by
  have hperm := (List.perm_ext_iff_of_nodup hps.nodup_components hqs.nodup_components).2 h
  have hordered : ∀ {rs : List Path}, Increasing rs →
      (rs.map components).Pairwise fun cs ds => Ord.compare cs ds = .lt :=
    fun hrs => List.pairwise_map.2 hrs
  refine hperm.eq_of_pairwise ?_ (hordered hps) (hordered hqs)
  intro cs ds _ _ hlt hgt
  exact absurd hgt (Std.OrientedCmp.not_lt_of_lt hlt)

end Path

end ScriptScan
