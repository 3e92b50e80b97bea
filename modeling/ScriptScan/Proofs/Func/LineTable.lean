import ScriptScan.Func

/-!
# Lines that come in order

A table of lines sorts them by their spans. Lines that come in the order of their spans already are
read back as they came: `lines_ofLines`. Nothing is lost then, nothing is moved, and lines that
share a span keep their order.
-/

namespace ScriptScan

namespace Span

theorem compare_self (s : Span) : compare s s = .eq := by
  simp [Span.compare]

/-- In one file a span that begins later is greater. -/
theorem compare_of_first_lt {s t : Span} (hfile : t.file = s.file) (h : s.first < t.first) :
    compare t s = .gt := by
  have hgt : Ord.compare t.first s.first = .gt := Nat.compare_eq_gt.2 h
  simp [Span.compare, hfile, hgt]

end Span

namespace LineTable

/-- Whether a line has the given span, or a greater one. -/
def ComesAt (span : Span) (l : LogicalLine) : Prop :=
  l.span = span ∨ compare l.span span = .gt

/-- The table of some lines. -/
def ofLines (ls : List LogicalLine) : LineTable :=
  ls.foldl add {}

theorem ofLines_append (ls ls' : List LogicalLine) :
    ofLines (ls ++ ls') = ls'.foldl add (ofLines ls) :=
  List.foldl_append

/-- A line that comes at the greatest span or behind it goes to the end. -/
theorem lines_add {t : LineTable} {l : LogicalLine}
    (h : ∀ g, t.groups.head? = some g → ComesAt g.1 l) :
    (t.add l).lines = t.lines ++ [l] ∧ (t.add l).groups.head?.map (·.1) = some l.span := by
  rcases t with ⟨groups⟩
  cases groups with
  | nil => exact ⟨rfl, rfl⟩
  | cons g rest =>
    rcases g with ⟨span, texts⟩
    rcases h (span, texts) rfl with rfl | hgt
    · -- the line joins the group of its span
      have hcmp : compare l.span l.span = .eq := Span.compare_self l.span
      simp only [add, insert, hcmp, lines]
      simp
    · simp only [add, insert, hgt, lines]
      simp

theorem lines_foldl_add {ls : List LogicalLine} {t : LineTable}
    (hfirst : ∀ l ∈ ls, ∀ g, t.groups.head? = some g → ComesAt g.1 l)
    (h : ls.Pairwise fun a b => ComesAt a.span b) : (ls.foldl add t).lines = t.lines ++ ls := by
  induction ls generalizing t with
  | nil => simp
  | cons l ls ih =>
    rcases List.pairwise_cons.1 h with ⟨hbehind, hrest⟩
    rcases lines_add (hfirst l (List.mem_cons_self ..)) with ⟨hlines, hhead⟩
    have hfirst' : ∀ l' ∈ ls, ∀ g, (t.add l).groups.head? = some g → ComesAt g.1 l' := by
      intro l' hl' g hg
      have hspan : g.1 = l.span := by simpa [hg] using hhead
      rw [hspan]
      exact hbehind l' hl'
    rw [List.foldl_cons, ih hfirst' hrest, hlines]
    simp

/-- Lines that come in the order of their spans are read back as they came. -/
theorem lines_ofLines {ls : List LogicalLine} (h : ls.Pairwise fun a b => ComesAt a.span b) :
    (ofLines ls).lines = ls := by
  have hempty : ∀ l ∈ ls, ∀ g, ({} : LineTable).groups.head? = some g → ComesAt g.1 l := by
    intro l _ g hg
    cases hg
  simpa [ofLines, lines] using lines_foldl_add hempty h

end LineTable

end ScriptScan
