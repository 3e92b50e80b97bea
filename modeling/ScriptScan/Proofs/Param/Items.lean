import ScriptScan.Param.Parser
import ScriptScan.Proofs.Text.Literal

/-!
# The items of a parameter list

A parameter list is cut at the commas that stand outside quotes and brackets. Where a comma stands
is a matter of the text before it: its quotes alone say whether it stands outside literals, and the
brackets among the rest how deep it stands. The reader keeps both in one state, and begins anew
behind each comma at which it cuts.

* `splitItems_eq_iff` — the pieces, each seen from its own beginning: none has a comma to be cut at,
  and each but the last ends where a comma is cut at.
* `cutInto_iff` — the pieces, seen from the beginning of the text: where two of them meet is exactly
  where a comma stands outside quotes and brackets.
* `closed_congr` — pieces with the same quotes, brackets and commas are cut alike.
-/

namespace ScriptScan

/-! ## Places outside quotes and brackets -/

namespace Text

/-- The characters of a text that are met outside literals. -/
def unquoted : Literal → Text → Text
  | _, [] => []
  | s, c :: t => if s = .outside then c :: unquoted (s.step c) t else unquoted (s.step c) t

/-- The depth behind one more character. It never goes below zero. -/
def bracketStep (depth : Nat) (c : Char) : Nat :=
  if c = '(' ∨ c = '[' ∨ c = '\x7b' then depth + 1
  else if c = ')' ∨ c = ']' ∨ c = '\x7d' then depth - 1
  else depth

/-- How many brackets are open behind a text, of those outside literals. -/
def bracketDepth (t : Text) : Nat :=
  (unquoted .outside t).foldl bracketStep 0

/-- Whether what stands behind a text stands outside quotes and brackets. -/
def IsOuter (t : Text) : Prop :=
  t.endsOutsideLiteral = true ∧ t.bracketDepth = 0

instance (t : Text) : Decidable t.IsOuter :=
  inferInstanceAs (Decidable (_ ∧ _))

end Text

namespace Param

namespace ItemState

/-- The state after a text. -/
def run (s : ItemState) (t : Text) : ItemState :=
  t.foldl step s

@[simp] theorem run_nil (s : ItemState) : s.run [] = s := rfl

@[simp] theorem run_cons (s : ItemState) (c : Char) (t : Text) :
    s.run (c :: t) = (s.step c).run t := rfl

theorem run_append (s : ItemState) (t u : Text) : s.run (t ++ u) = (s.run t).run u := by
  simp [run, List.foldl_append]

theorem run_literal (s : ItemState) (t : Text) : (s.run t).literal = s.literal.run t := by
  induction t generalizing s with
  | nil => rfl
  | cons c t ih => exact ih (s.step c)

theorem run_depth (s : ItemState) (t : Text) :
    (s.run t).depth = (Text.unquoted s.literal t).foldl Text.bracketStep s.depth := by
  induction t generalizing s with
  | nil => rfl
  | cons c t ih =>
    rw [run_cons, ih, Text.unquoted]
    by_cases hs : s.literal = .outside
    · simp [hs, step, Text.bracketStep]
    · simp [hs, step]

theorem atTop_iff {s : ItemState} : s.atTop = true ↔ s = {} := by
  rcases s with ⟨literal, depth⟩
  simp [atTop]

/-- The reader is back at its start exactly behind a text behind which a comma is cut at. -/
theorem run_eq_start_iff {t : Text} : ({} : ItemState).run t = {} ↔ t.IsOuter := by
  have hliteral := run_literal {} t
  have hdepth := run_depth {} t
  rw [← atTop_iff]
  simp only [atTop, hliteral, hdepth, Bool.and_eq_true, beq_iff_eq, Text.IsOuter,
    Text.endsOutsideLiteral, Text.bracketDepth]

end ItemState

/-! ## Pieces -/

/-- Whether a piece has no comma to be cut at, from a state on. -/
def Whole (s : ItemState) (t : Text) : Prop :=
  Text.NeverMeets ItemState.step {} ',' s t

/-- Whether some pieces, from a state on, have no comma to be cut at, and all but the last end where
a comma is cut at. -/
inductive Closed : ItemState → List Text → Prop where
  | last {s : ItemState} {p : Text} (hwhole : Whole s p) : Closed s [p]
  | cons {s : ItemState} {p : Text} {ps : List Text} (hwhole : Whole s p) (hend : s.run p = {})
    (hrest : Closed {} ps) : Closed s (p :: ps)

variable {s : ItemState} {c : Char} {t text p : Text} {ps pieces : List Text}

theorem Closed.ne_nil (h : Closed s ps) : ps ≠ [] := by
  cases h <;> exact List.cons_ne_nil _ _

theorem splitItems_of_cut (h : s.atTop = true ∧ c = ',') (t : Text) :
    splitItems s (c :: t) = [] :: splitItems {} t := by
  simp [splitItems, h]

theorem splitItems_of_not_cut (h : ¬(s.atTop = true ∧ c = ','))
    (hrest : splitItems (s.step c) t = p :: ps) : splitItems s (c :: t) = (c :: p) :: ps := by
  simp [splitItems, h, hrest]

/-- One more character at the front of the first piece. -/
theorem Closed.push (h : Closed (s.step c) (p :: ps)) (hcut : ¬(s.atTop = true ∧ c = ',')) :
    Closed s ((c :: p) :: ps) := by
  rw [ItemState.atTop_iff] at hcut
  cases h with
  | last hwhole => exact .last (Text.neverMeets_cons.2 ⟨hcut, hwhole⟩)
  | cons hwhole hend hrest => exact .cons (Text.neverMeets_cons.2 ⟨hcut, hwhole⟩) hend hrest

theorem closed_splitItems (s : ItemState) (t : Text) : Closed s (splitItems s t) := by
  induction t generalizing s with
  | nil => exact .last Text.neverMeets_nil
  | cons c t ih =>
    by_cases hcut : s.atTop = true ∧ c = ','
    · rw [splitItems_of_cut hcut]
      exact .cons Text.neverMeets_nil (ItemState.atTop_iff.1 hcut.1) (ih {})
    · have hrest := ih (s.step c)
      cases h : splitItems (s.step c) t with
      | nil => exact absurd h hrest.ne_nil
      | cons p ps =>
        rw [h] at hrest
        rw [splitItems_of_not_cut hcut h]
        exact hrest.push hcut

theorem join_splitItems (s : ItemState) (t : Text) : [','].intercalate (splitItems s t) = t := by
  induction t generalizing s with
  | nil => rfl
  | cons c t ih =>
    by_cases hcut : s.atTop = true ∧ c = ','
    · have hne := (closed_splitItems {} t).ne_nil
      rw [splitItems_of_cut hcut, List.intercalate_cons_of_ne_nil hne, ih, hcut.2]
      rfl
    · have hrest := ih (s.step c)
      cases h : splitItems (s.step c) t with
      | nil => exact absurd h (closed_splitItems (s.step c) t).ne_nil
      | cons p ps =>
        rw [h] at hrest
        rw [splitItems_of_not_cut hcut h, ← hrest]
        cases ps with
        | nil => simp
        | cons q qs => simp [List.intercalate_cons_cons]

theorem splitItems_of_whole (h : Whole s t) : splitItems s t = [t] := by
  induction t generalizing s with
  | nil => rfl
  | cons c t ih =>
    obtain ⟨hcut, hrest⟩ := Text.neverMeets_cons.1 h
    rw [← ItemState.atTop_iff] at hcut
    exact splitItems_of_not_cut hcut (ih hrest)

/-- The first piece ends at the first comma that is cut at. -/
theorem splitItems_append (h : Whole s p) (hend : s.run p = {}) (t : Text) :
    splitItems s (p ++ ',' :: t) = p :: splitItems {} t := by
  induction p generalizing s with
  | nil => exact splitItems_of_cut ⟨ItemState.atTop_iff.2 hend, rfl⟩ t
  | cons c p ih =>
    obtain ⟨hcut, hrest⟩ := Text.neverMeets_cons.1 h
    rw [← ItemState.atTop_iff] at hcut
    exact splitItems_of_not_cut hcut (ih hrest hend)

theorem splitItems_join (h : Closed s ps) : splitItems s ([','].intercalate ps) = ps := by
  induction h with
  | last hwhole =>
    rw [List.intercalate_singleton]
    exact splitItems_of_whole hwhole
  | cons hwhole hend hrest ih =>
    rw [List.intercalate_cons_of_ne_nil hrest.ne_nil, List.append_assoc, List.singleton_append,
      splitItems_append hwhole hend, ih]

/-- The pieces of a text are the only ones that give it when joined and are closed. -/
theorem splitItems_eq_iff :
    splitItems s t = ps ↔ [','].intercalate ps = t ∧ Closed s ps := by
  constructor
  · rintro rfl
    exact ⟨join_splitItems s t, closed_splitItems s t⟩
  · rintro ⟨rfl, hclosed⟩
    exact splitItems_join hclosed

/-! ## Cuts -/

/-- Whether two of some pieces meet at the comma between the texts `pre` and `post`. -/
inductive IsCut : List Text → (pre post : Text) → Prop where
  | here {p : Text} {ps : List Text} (hne : ps ≠ []) : IsCut (p :: ps) p ([','].intercalate ps)
  | later {p pre post : Text} {ps : List Text} (h : IsCut ps pre post) :
    IsCut (p :: ps) (p ++ ',' :: pre) post

/-- Whether some pieces are what is left of a text that is cut at exactly the commas that stand
outside quotes and brackets. -/
structure CutInto (text : Text) (pieces : List Text) : Prop where
  ne_nil : pieces ≠ []
  join_eq : [','].intercalate pieces = text
  isOuter_iff : ∀ pre post, text = pre ++ ',' :: post → (pre.IsOuter ↔ IsCut pieces pre post)

theorem isCut_cons {pre post : Text} :
    IsCut (p :: ps) pre post ↔
      (ps ≠ [] ∧ pre = p ∧ post = [','].intercalate ps) ∨
        ∃ pre', pre = p ++ ',' :: pre' ∧ IsCut ps pre' post := by
  constructor
  · intro h
    cases h with
    | here hne => exact .inl ⟨hne, rfl, rfl⟩
    | later h => exact .inr ⟨_, rfl, h⟩
  · rintro (⟨hne, rfl, rfl⟩ | ⟨pre', rfl, h⟩)
    · exact .here hne
    · exact .later h

theorem not_isCut_singleton {pre post : Text} : ¬IsCut [p] pre post := by
  rw [isCut_cons]
  rintro (⟨hne, -⟩ | ⟨pre', -, h⟩)
  · exact hne rfl
  · cases h

/-- Behind the first of several pieces the cuts are those of the others. -/
theorem isCut_behind {pre post : Text} :
    IsCut (p :: ps) (p ++ ',' :: pre) post ↔ IsCut ps pre post := by
  rw [isCut_cons]
  constructor
  · rintro (⟨-, heq, -⟩ | ⟨pre', heq, h⟩)
    · simp at heq
    · have hpre : pre = pre' := by simpa using heq
      rw [hpre]
      exact h
  · exact fun h => .inr ⟨pre, rfl, h⟩

/-- Inside of the first of several pieces there is no cut. -/
theorem not_isCut_inside {pre post post' : Text} (hp : p = pre ++ ',' :: post') :
    ¬IsCut (p :: ps) pre post := by
  subst hp
  rw [isCut_cons]
  rintro (⟨-, heq, -⟩ | ⟨pre', heq, -⟩)
  · simp at heq
  · simp at heq

/-- Where a comma stands in two texts that are joined by a comma. -/
theorem comma_cases {pre post : Text} (h : p ++ ',' :: t = pre ++ ',' :: post) :
    (pre = p ∧ post = t) ∨ (∃ pre', pre = p ++ ',' :: pre' ∧ t = pre' ++ ',' :: post) ∨
      ∃ post', p = pre ++ ',' :: post' := by
  rcases List.append_eq_append_iff.1 h with ⟨between, rfl, heq⟩ | ⟨between, rfl, heq⟩
  · cases between with
    | nil => exact .inl ⟨List.append_nil p, (List.cons.inj heq).2.symm⟩
    | cons d between =>
      obtain ⟨rfl, hrest⟩ := List.cons.inj heq
      exact .inr (.inl ⟨between, rfl, hrest⟩)
  · cases between with
    | nil => exact .inl ⟨(List.append_nil pre).symm, (List.cons.inj heq).2⟩
    | cons d between =>
      obtain ⟨rfl, -⟩ := List.cons.inj heq
      exact .inr (.inr ⟨between, rfl⟩)

/-- Behind a comma that is cut at the reader begins anew. -/
theorem run_behind (hend : s.run p = {}) (pre : Text) :
    s.run (p ++ ',' :: pre) = ({} : ItemState).run pre := by
  rw [ItemState.run_append, hend]
  rfl

/-- Closed pieces meet at exactly the commas where the reader is back at its start. The induction is
on the pieces; a comma is that behind the first piece, or stands in it, or further behind. -/
theorem closed_iff (hne : ps ≠ []) :
    Closed s ps ↔
      ∀ pre post, [','].intercalate ps = pre ++ ',' :: post →
        (s.run pre = {} ↔ IsCut ps pre post) := by
  constructor
  · intro h
    induction h with
    | last hwhole =>
      intro pre post heq
      rw [List.intercalate_singleton] at heq
      exact iff_of_false (hwhole pre post heq) not_isCut_singleton
    | cons hwhole hend hrest ih =>
      intro pre post heq
      rw [List.intercalate_cons_of_ne_nil hrest.ne_nil, List.append_assoc] at heq
      rcases comma_cases heq with ⟨rfl, rfl⟩ | ⟨pre', rfl, htail⟩ | ⟨post', hp⟩
      · exact iff_of_true hend (.here hrest.ne_nil)
      · rw [run_behind hend, isCut_behind]
        exact ih hrest.ne_nil pre' post htail
      · exact iff_of_false (hwhole pre post' hp) (not_isCut_inside hp)
  · intro h
    induction ps generalizing s with
    | nil => exact absurd rfl hne
    | cons p ps ih =>
      by_cases hps : ps = []
      · subst hps
        refine .last ?_
        intro pre post heq hrun
        rw [List.intercalate_singleton] at h
        exact not_isCut_singleton ((h pre post heq).1 hrun)
      · rw [List.intercalate_cons_of_ne_nil hps, List.append_assoc, List.singleton_append] at h
        have hend : s.run p = {} := (h p _ rfl).2 (.here hps)
        refine .cons ?_ hend (ih hps ?_)
        · intro pre post heq hrun
          have hinside : p ++ ',' :: [','].intercalate ps =
              pre ++ ',' :: (post ++ ',' :: [','].intercalate ps) := by
            rw [heq]
            simp
          exact not_isCut_inside heq ((h pre _ hinside).1 hrun)
        · intro pre post heq
          have hbehind := h (p ++ ',' :: pre) post (by rw [heq]; simp)
          rw [run_behind hend, isCut_behind] at hbehind
          exact hbehind

theorem cutInto_iff : CutInto text pieces ↔ splitItems {} text = pieces := by
  rw [splitItems_eq_iff]
  constructor
  · rintro ⟨hne, rfl, hcut⟩
    refine ⟨rfl, (closed_iff hne).2 ?_⟩
    intro pre post heq
    rw [ItemState.run_eq_start_iff, hcut pre post heq]
  · rintro ⟨rfl, hclosed⟩
    refine ⟨hclosed.ne_nil, rfl, ?_⟩
    intro pre post heq
    rw [← ItemState.run_eq_start_iff, (closed_iff hclosed.ne_nil).1 hclosed pre post heq]

end Param

/-! ## Characters that matter -/

/-- Whether a character is a quote, a bracket or a comma. -/
def isMark (c : Char) : Bool :=
  isQuote c || ['(', '[', '\x7b', ')', ']', '\x7d', ','].contains c

namespace Text

/-- The quotes, brackets and commas of a text, in order. -/
def marks (t : Text) : Text :=
  t.filter isMark

variable {t : Text}

theorem marks_append (t u : Text) : marks (t ++ u) = t.marks ++ u.marks :=
  List.filter_append ..

theorem marks_eq_nil (h : ∀ c ∈ t, isMark c = false) : t.marks = [] := by
  rw [marks, List.filter_eq_nil_iff]
  intro c hc
  simp [h c hc]

end Text

namespace Param

variable {s : ItemState} {c : Char} {pieces others : List Text}

theorem ItemState.step_eq_self (hs : s.literal.Proper) (hc : isMark c = false) : s.step c = s := by
  simp only [isMark, Bool.or_eq_false_iff, List.contains_eq_mem, List.mem_cons, List.not_mem_nil,
    or_false, decide_eq_false_iff_not, not_or] at hc
  rcases hc with ⟨hquote, hround, hsquare, hcurly, hround', hsquare', hcurly', -⟩
  simp [ItemState.step, hs.step_eq_self hquote, hround, hsquare, hcurly, hround', hsquare', hcurly']

theorem run_marks (hs : s.literal.Proper) (t : Text) : s.run t.marks = s.run t := by
  induction t generalizing s with
  | nil => rfl
  | cons c t ih =>
    have hstep : (s.step c).literal.Proper := hs.step c
    by_cases hc : isMark c = true
    · rw [Text.marks, List.filter_cons_of_pos hc]
      exact ih hstep
    · rw [Text.marks, List.filter_cons_of_neg hc, ItemState.run_cons,
        ItemState.step_eq_self hs (Bool.eq_false_iff.2 hc)]
      exact ih hs

theorem whole_marks (hs : s.literal.Proper) (t : Text) : Whole s t.marks ↔ Whole s t := by
  induction t generalizing s with
  | nil => exact Iff.rfl
  | cons c t ih =>
    have hstep : (s.step c).literal.Proper := hs.step c
    by_cases hc : isMark c = true
    · rw [Text.marks, List.filter_cons_of_pos hc, Whole, Whole, Text.neverMeets_cons,
        Text.neverMeets_cons]
      exact and_congr_right fun _ => ih hstep
    · have hcomma : c ≠ ',' := by
        rintro rfl
        exact hc (by decide)
      rw [Text.marks, List.filter_cons_of_neg hc, Whole, Whole, Text.neverMeets_cons,
        ItemState.step_eq_self hs (Bool.eq_false_iff.2 hc)]
      simp only [hcomma, and_false, not_false_eq_true, true_and]
      exact ih hs

/-- Pieces with the same quotes, brackets and commas are cut alike. -/
theorem closed_congr (hs : s.literal.Proper) (h : others.map Text.marks = pieces.map Text.marks)
    (hclosed : Closed s pieces) : Closed s others := by
  induction hclosed generalizing others with
  | @last s piece hwhole =>
    rw [List.map_singleton] at h
    rcases List.map_eq_singleton_iff.1 h with ⟨other, rfl, hmarks⟩
    rw [← whole_marks hs, ← hmarks, whole_marks hs] at hwhole
    exact .last hwhole
  | @cons s piece pieces hwhole hend hrest ih =>
    rw [List.map_cons] at h
    rcases List.map_eq_cons_iff.1 h with ⟨other, others, rfl, hmarks, hothers⟩
    rw [← whole_marks hs, ← hmarks, whole_marks hs] at hwhole
    rw [← run_marks hs, ← hmarks, run_marks hs] at hend
    exact .cons hwhole hend (ih Literal.proper_outside hothers)

end Param

end ScriptScan
