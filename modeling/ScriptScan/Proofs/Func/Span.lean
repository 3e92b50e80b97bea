import Mathlib.Data.List.Basic
import Mathlib.Data.List.Induction
import ScriptScan.Proofs.Func.LineTable
import ScriptScan.Proofs.Source.Spans

/-!
# Where a function stands

A function has two places: the line that declares it, and the span of its body, which is that line
only if there is no body. Both are written like any other span.

* `Span.display_inj` — within one file a span can be told from what is written for it.
* `LineTable.span?_ofLines` — lines that come in order span from the first to the last. So the span of
  a function that holds them covers its body (`FuncDecl.Covers`).
* `FuncDecl.WrittenAs` is what a function has from its lines in the source; for such a function
  `FuncDecl.WrittenAs.display_span_iff` says when both places are written alike.
-/

namespace ScriptScan

/-! ## Written spans -/

theorem Text.ofNat_inj {m n : Nat} (h : Text.ofNat m = Text.ofNat n) : m = n := by
  have hdigits := congrArg (fun ds => Nat.ofDigitChars 10 ds 0) h
  simpa [Text.ofNat] using hdigits

theorem Text.dash_not_mem_ofNat (n : Nat) : '-' ∉ Text.ofNat n := by
  intro hmem
  have hdigit := Nat.isDigit_of_mem_toDigits (by decide) (by decide) hmem
  cases hdigit

/-- Two spans of one file that are written alike are the same. -/
theorem Span.display_inj {s t : Span} (hfile : s.file = t.file) (h : s.display = t.display) :
    s = t := by
  obtain ⟨file, first, last⟩ := s
  obtain ⟨file', first', last'⟩ := t
  cases hfile
  have hdash : ∀ m n k : Nat, Text.ofNat m ≠ Text.ofNat n ++ '-' :: Text.ofNat k := by
    intro m n k heq
    refine Text.dash_not_mem_ofNat m ?_
    rw [heq]
    simp
  simp only [Span.display, Span.isSingleLine, beq_iff_eq] at h
  split at h
  · rename_i hsingle
    cases hsingle
    split at h
    · rename_i hsingle'
      cases hsingle'
      have hfirst : first = first' := Text.ofNat_inj (by simpa using h)
      rw [hfirst]
    · exact absurd (by simpa using h) (hdash first first' last')
  · split at h
    · exact absurd (Eq.symm (by simpa using h)) (hdash first' first last)
    · have hrange : Text.ofNat first ++ '-' :: Text.ofNat last =
          Text.ofNat first' ++ '-' :: Text.ofNat last' := by
        simpa using h
      obtain ⟨hfirst, -, hlast⟩ := (List.append_cons_inj_of_notMem (Text.dash_not_mem_ofNat _)
        (Text.dash_not_mem_ofNat _)).1 hrange
      rw [Text.ofNat_inj hfirst, Text.ofNat_inj hlast]

/-! ## Lines in order -/

/-- A line that another one precedes goes behind it in a table. -/
theorem LogicalLine.Precedes.comesAt {a b : LogicalLine} (h : a.Precedes b)
    (hfile : b.span.file = a.span.file) (ha : a.span.first ≤ a.span.last) :
    LineTable.ComesAt a.span b := by
  rcases h with heq | hlt
  · exact .inl heq.symm
  · exact .inr (Span.compare_of_first_lt hfile (Nat.lt_of_le_of_lt ha hlt))

/-- Lines of one file that come one behind the other come in the order of their spans. -/
theorem LogicalLine.pairwise_comesAt {ls : List LogicalLine} {file : Text}
    (h : ls.Pairwise Precedes) (hfile : ∀ l ∈ ls, l.span.file = file)
    (hfirst : ∀ l ∈ ls, l.span.first ≤ l.span.last) :
    ls.Pairwise fun a b => LineTable.ComesAt a.span b := by
  refine h.imp_of_mem ?_
  intro a b ha hb hab
  exact hab.comesAt ((hfile b hb).trans (hfile a ha).symm) (hfirst a ha)

/-- Of lines that come one behind the other the first one begins first. -/
theorem LogicalLine.first_le_of_head {first : LogicalLine} {rest : List LogicalLine}
    (h : (first :: rest).Pairwise Precedes) (hfirst : first.span.first ≤ first.span.last) :
    ∀ l ∈ first :: rest, first.span.first ≤ l.span.first := by
  intro l hl
  rcases List.mem_cons.1 hl with rfl | hrest
  · exact Nat.le_refl _
  · rcases (List.pairwise_cons.1 h).1 l hrest with heq | hlt
    · exact Nat.le_of_eq (congrArg Span.first heq)
    · omega

/-- Of lines that come one behind the other the last one ends last. -/
theorem LogicalLine.last_le_of_getLast? {ls : List LogicalLine} {last : LogicalLine}
    (h : ls.Pairwise Precedes) (hfirst : ∀ l ∈ ls, l.span.first ≤ l.span.last)
    (hlast : ls.getLast? = some last) : ∀ l ∈ ls, l.span.last ≤ last.span.last := by
  obtain ⟨init, rfl⟩ := List.getLast?_eq_some_iff.1 hlast
  intro l hl
  rcases List.mem_append.1 hl with hinit | hl
  · have hle := hfirst last (by simp)
    rcases (List.pairwise_append.1 h).2.2 l hinit last (by simp) with heq | hlt
    · exact Nat.le_of_eq (congrArg Span.last heq)
    · omega
  · exact Nat.le_of_eq (congrArg (·.span.last) (List.mem_singleton.1 hl))

theorem Span.through_self {s : Span} (h : s.first ≤ s.last) : s.through s = s := by
  simp [Span.through, Span.lines, h]

namespace LineTable

/-- A line that comes at the greatest span or behind it leaves the least span as it is. -/
theorem getLast?_add {t : LineTable} {l : LogicalLine}
    (h : ∀ g, t.groups.head? = some g → ComesAt g.1 l) :
    (t.add l).groups.getLast?.map (·.1) = (t.groups.getLast?.map (·.1)).or (some l.span) := by
  rcases t with ⟨groups⟩
  cases groups with
  | nil => rfl
  | cons g rest =>
    rcases g with ⟨span, texts⟩
    rcases h (span, texts) rfl with rfl | hgt
    · have hcmp : compare l.span l.span = .eq := Span.compare_self l.span
      simp only [add, insert, hcmp]
      cases rest with
      | nil => rfl
      | cons g rest => simp [List.getLast?_cons]
    · simp only [add, insert, hgt]
      simp [List.getLast?_cons]

/-- The first group of lines that come in order is at the last line, and the last one at the first
line. -/
theorem ends_ofLines {ls : List LogicalLine} (h : ls.Pairwise fun a b => ComesAt a.span b) :
    (ofLines ls).groups.head?.map (·.1) = ls.getLast?.map (·.span) ∧
      (ofLines ls).groups.getLast?.map (·.1) = ls.head?.map (·.span) := by
  induction ls using List.reverseRecOn with
  | nil => simp [ofLines]
  | append_singleton ls l ih =>
    obtain ⟨hinit, -, hlast⟩ := List.pairwise_append.1 h
    obtain ⟨hhead, hend⟩ := ih hinit
    have hsnoc : ofLines (ls ++ [l]) = (ofLines ls).add l := ofLines_append ls [l]
    -- the line comes behind all others
    have hbehind : ∀ g, (ofLines ls).groups.head? = some g → ComesAt g.1 l := by
      intro g hg
      rw [hg, Option.map_some, eq_comm, Option.map_eq_some_iff] at hhead
      obtain ⟨a, ha, hspan⟩ := hhead
      rw [← hspan]
      exact hlast a (List.mem_of_getLast? ha) l (by simp)
    rw [hsnoc]
    constructor
    · rw [(lines_add hbehind).2]
      simp
    · rw [List.head?_append, getLast?_add hbehind, hend]
      cases ls <;> simp

/-- Lines that come in order span from the first one to the last. -/
theorem span?_ofLines {ls : List LogicalLine} {first last : LogicalLine}
    (h : ls.Pairwise fun a b => ComesAt a.span b) (hfirst : ls.head? = some first)
    (hlast : ls.getLast? = some last) :
    (ofLines ls).span? = some (first.span.through last.span) := by
  obtain ⟨hhead, hend⟩ := ends_ofLines h
  rw [hlast, Option.map_some, Option.map_eq_some_iff] at hhead
  rw [hfirst, Option.map_some, Option.map_eq_some_iff] at hend
  obtain ⟨g, hg, hgspan⟩ := hhead
  obtain ⟨g', hg', hgspan'⟩ := hend
  simp only [span?, hg, hg', hgspan, hgspan']

end LineTable

/-! ## Functions -/

/-- Whether the span of a function is that of its body: from the first line that any line of the body
begins at to the last line that any of them ends at, or that of the declaration if there is no
body. -/
structure FuncDecl.Covers (f : FuncDecl) : Prop where
  empty : f.body = [] → f.span = f.declaredAt
  first : f.body ≠ [] → (f.body.map (·.span.first)).min? = some f.span.first
  last : f.body ≠ [] → (f.body.map (·.span.last)).max? = some f.span.last
  file : f.body ≠ [] → ∀ l ∈ f.body, l.span.file = f.span.file

/-- The body of a function that holds lines of one file, one behind the other, is these lines, and the
span of the function covers them. -/
theorem FuncDecl.covers_of_ordered {f : FuncDecl} {ls : List LogicalLine} {file : Text}
    (htable : f.table = .ofLines ls) (hordered : ls.Pairwise LogicalLine.Precedes)
    (hfile : ∀ l ∈ ls, l.span.file = file) (hfirst : ∀ l ∈ ls, l.span.first ≤ l.span.last) :
    f.body = ls ∧ f.Covers := by
  have hcomes := LogicalLine.pairwise_comesAt hordered hfile hfirst
  have hbody : f.body = ls := by
    rw [FuncDecl.body, htable]
    exact LineTable.lines_ofLines hcomes
  refine ⟨hbody, ?_⟩
  cases ls with
  | nil =>
    have hspan : f.span = f.declaredAt := by
      rw [FuncDecl.span, htable]
      rfl
    exact ⟨fun _ => hspan, fun hne => absurd hbody hne, fun hne => absurd hbody hne,
      fun hne => absurd hbody hne⟩
  | cons first rest =>
    obtain ⟨last, hlast⟩ : ∃ last, (first :: rest).getLast? = some last :=
      ⟨_, List.getLast?_eq_some_getLast (List.cons_ne_nil _ _)⟩
    have hspan : f.span = first.span.through last.span := by
      rw [FuncDecl.span, htable, LineTable.span?_ofLines hcomes rfl hlast]
      rfl
    have hbegins := LogicalLine.first_le_of_head hordered (hfirst first List.mem_cons_self)
    have hends := LogicalLine.last_le_of_getLast? hordered hfirst hlast
    have hmem : last ∈ first :: rest := List.mem_of_getLast? hlast
    have hfirstEq : f.span.first = first.span.first := by
      rw [hspan]
      rfl
    -- the first line does not end behind the last one
    have hlastEq : f.span.last = last.span.last := by
      have hfirst' := hfirst first List.mem_cons_self
      have hends' := hends first List.mem_cons_self
      rw [hspan]
      show max first.span.first last.span.last = last.span.last
      omega
    constructor
    · intro hnil
      exact absurd (hbody.symm.trans hnil) (List.cons_ne_nil _ _)
    · intro _
      rw [hbody, hfirstEq, List.min?_eq_some_iff]
      exact ⟨List.mem_map_of_mem List.mem_cons_self, by simpa using hbegins⟩
    · intro _
      rw [hbody, hlastEq, List.max?_eq_some_iff]
      exact ⟨List.mem_map_of_mem hmem, by simpa using hends⟩
    · intro _ l hl
      rw [hbody] at hl
      rw [hspan]
      exact (hfile l hl).trans (hfile first List.mem_cons_self).symm

/-- Whether a function is written as an opening line and some lines of its body, in one file and one
behind the other. -/
structure FuncDecl.WrittenAs (f : FuncDecl) (opening : LogicalLine) (ls : List LogicalLine) :
    Prop where
  declaredAt_eq : f.declaredAt = opening.span
  table_eq : f.table = .ofLines ls
  one_file : ∀ l ∈ opening :: ls, l.span.file = opening.span.file
  first_le_last : ∀ l ∈ opening :: ls, l.span.first ≤ l.span.last
  ordered : (opening :: ls).Pairwise LogicalLine.Precedes

namespace FuncDecl.WrittenAs

variable {f : FuncDecl} {opening : LogicalLine} {ls : List LogicalLine}

theorem comesAt (h : f.WrittenAs opening ls) :
    ls.Pairwise fun a b => LineTable.ComesAt a.span b :=
  LogicalLine.pairwise_comesAt (List.pairwise_cons.1 h.ordered).2
    (fun l hl => h.one_file l (List.mem_cons_of_mem _ hl))
    (fun l hl => h.first_le_last l (List.mem_cons_of_mem _ hl))

theorem body_eq (h : f.WrittenAs opening ls) : f.body = ls := by
  rw [FuncDecl.body, h.table_eq]
  exact LineTable.lines_ofLines h.comesAt

theorem span_eq (h : f.WrittenAs opening ls) {first last : LogicalLine}
    (hfirst : ls.head? = some first) (hlast : ls.getLast? = some last) :
    f.span = first.span.through last.span := by
  rw [FuncDecl.span, h.table_eq, LineTable.span?_ofLines h.comesAt hfirst hlast]
  rfl

theorem span_of_nil (h : f.WrittenAs opening []) : f.span = f.declaredAt := by
  rw [FuncDecl.span, h.table_eq]
  rfl

theorem span_file (h : f.WrittenAs opening ls) : f.span.file = f.declaredAt.file := by
  cases ls with
  | nil => rw [h.span_of_nil]
  | cons first rest =>
    rw [h.span_eq rfl (List.getLast?_eq_some_getLast (List.cons_ne_nil _ _)), h.declaredAt_eq]
    exact h.one_file first (by simp)

/-- The span of the body is the line of the declaration only if all of the function stands on
that line. -/
theorem span_eq_declaredAt_iff (h : f.WrittenAs opening ls) :
    f.span = f.declaredAt ↔ ∀ l ∈ ls, l.span = f.declaredAt := by
  cases ls with
  | nil => simp [h.span_of_nil]
  | cons first rest =>
    obtain ⟨last, hlast⟩ : ∃ last, (first :: rest).getLast? = some last :=
      ⟨_, List.getLast?_eq_some_getLast (List.cons_ne_nil _ _)⟩
    have hspan := h.span_eq rfl hlast
    have hlastMem : last ∈ first :: rest := List.mem_of_getLast? hlast
    rw [hspan, h.declaredAt_eq]
    obtain ⟨hopening, hrest⟩ := List.pairwise_cons.1 h.ordered
    have hfirsts : ∀ l ∈ first :: rest, l.span.first ≤ l.span.last :=
      fun l hl => h.first_le_last l (List.mem_cons_of_mem _ hl)
    constructor
    · intro heq l hl
      rcases hopening l hl with hsame | hlt
      · exact hsame.symm
      · -- a line behind the opening one ends behind it, and so does the body
        have hend : last.span.last ≤ opening.span.last := by
          rw [← heq]
          exact Nat.le_max_right ..
        have hle := hfirsts l hl
        have hlastLe := LogicalLine.last_le_of_getLast? hrest hfirsts hlast l hl
        omega
    · intro hall
      rw [hall first List.mem_cons_self, hall last hlastMem]
      exact Span.through_self (h.first_le_last opening List.mem_cons_self)

/-- The two places of a function are written alike only if all of it stands on the line of its
declaration. -/
theorem display_span_iff (h : f.WrittenAs opening ls) :
    f.span.display = f.declaredAt.display ↔ ∀ l ∈ f.body, l.span = f.declaredAt := by
  rw [h.body_eq, ← h.span_eq_declaredAt_iff]
  constructor
  · intro hdisplay
    exact Span.display_inj h.span_file hdisplay
  · intro hspan
    rw [hspan]

end FuncDecl.WrittenAs

end ScriptScan
