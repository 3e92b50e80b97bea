import ScriptScan.Proofs.Line.Nesting
import ScriptScan.Proofs.Source.Expansions

/-!
# The blocks of a source

The logical lines of a source fall into block forms, each at the one span of its line and behind the
ones before it. So of two lines of a source the second one either stands behind the first one, or
both came of one line; and then no function begins at the second one if a function ends at the
first one.

* `SourceMode.FallsIntoBlocks` is that shape, and `block_forms` the conclusion: what becomes of a
  line, and what a source is read into.
* `LogicalSource.apart_of_read` — where one function ends and another one begins.
-/

namespace ScriptScan

variable {m : SourceMode} {content : Text} {source : LogicalSource}

/-! ## Block forms one behind the other -/

/-- Whether some lines are block forms of lines of a file with that many physical lines, each of them
at the place of its line and behind the ones before it. -/
def SourceMode.FallsIntoBlocks (m : SourceMode) (count : Nat) (ls : List LogicalLine) : Prop :=
  ∃ es : List Expansion, ls = es.flatMap Expansion.lines ∧
    (∀ e ∈ es, e.span.Inside m.file 1 (count + 1) ∧ ∃ line, IsBlockForm m.strict line e.texts) ∧
    es.Pairwise fun e e' => e.span.last < e'.span.first

theorem LogicalSource.fallsIntoBlocks_of_read (h : read m content = .ok source) :
    m.FallsIntoBlocks content.lines.length source.lines := by
  rcases expansions_of_read h with ⟨es, heq, hvalid, hordered⟩
  refine ⟨es, heq, ?_, hordered⟩
  intro e he
  rcases (hvalid e he).expand_eq with ⟨line, hexpand⟩
  exact ⟨(hvalid e he).inside, line, isBlockForm_of_expand hexpand⟩

/-- No line of a source is cut again. -/
theorem LogicalSource.isSettled_of_read (h : read m content = .ok source) :
    ∀ l ∈ source.lines, l.text.IsSettled := by
  rcases fallsIntoBlocks_of_read h with ⟨es, heq, hblocks, -⟩
  intro l hl
  rw [heq] at hl
  rcases List.mem_flatMap.1 hl with ⟨e, he, hl⟩
  rcases List.mem_map.1 hl with ⟨t, ht, rfl⟩
  rcases (hblocks e he).2 with ⟨line, ⟨-, hnil⟩ | ⟨-, blocks, inner, hnests⟩⟩
  · rw [hnil] at ht
    cases ht
  · exact hnests.settled t ht

/-- Where a line is not refused, it becomes its block form; only in strict mode a line is refused. -/
theorem expand_cases (strict : Bool) (line : Text) :
    (∃ texts, expand strict line = .ok texts ∧ IsBlockForm strict line texts) ∨
      (strict = true ∧ expand strict line = .error .oneLineFunc) := by
  cases h : expand strict line with
  | ok texts => exact .inl ⟨texts, rfl, isBlockForm_of_expand h⟩
  | error cause =>
    rcases expand_eq_error h with ⟨hstrict, rfl⟩
    exact .inr ⟨hstrict, rfl⟩

/-- A line becomes nothing if it is blank, and else a line inside of the blocks that it opens, each of
which it also closes; all of that stands where the line stands, and none of it is cut again. A line is
refused only in strict mode. What a source is read into is made of such block forms, one behind the
other. -/
theorem block_forms (m : SourceMode) :
    (∀ line, (∃ texts, expand m.strict line = .ok texts ∧ IsBlockForm m.strict line texts) ∨
      (m.strict = true ∧ expand m.strict line = .error .oneLineFunc)) ∧
    (∀ text span out, m.emit text span = .ok out →
      ∃ texts, out = texts.map (⟨·, span⟩) ∧ IsBlockForm m.strict (modernize text) texts) ∧
    ∀ content source, LogicalSource.read m content = .ok source →
      m.FallsIntoBlocks content.lines.length source.lines := by
  refine ⟨expand_cases m.strict, ?_, fun _ _ => LogicalSource.fallsIntoBlocks_of_read⟩
  intro text span out hemit
  unfold SourceMode.emit at hemit
  split at hemit
  · rename_i texts hexpand
    cases hemit
    exact ⟨texts, rfl, isBlockForm_of_expand hexpand⟩
  · cases hemit

/-- The block form of an if with a function in it and an if in that function. -/
def nestedTexts : List Text :=
  ["if $a then".toList, "func f()".toList, "if $b then".toList, "g()".toList, "endif".toList,
    "endfunc".toList, "endif".toList]

theorem block_forms_nested :
    ∃ (m : SourceMode) (line : Text) (out : List LogicalLine),
      line = "if $a then func f() -> if $b then g()".toList ∧
      out = nestedTexts.map (⟨·, .line m.file 1⟩) ∧ m.emit line (.line m.file 1) = .ok out ∧
      LogicalSource.read m line = .ok ⟨out, 1⟩ ∧
      (∃ texts, out = texts.map (⟨·, .line m.file 1⟩) ∧
        IsBlockForm m.strict (modernize line) texts) ∧
      m.FallsIntoBlocks line.lines.length out := by
  have hemit : SourceMode.emit ⟨"t.au3".toList, false⟩
      "if $a then func f() -> if $b then g()".toList (.line "t.au3".toList 1) =
        .ok (nestedTexts.map (⟨·, .line "t.au3".toList 1⟩)) := by
    decide +kernel
  have hread : LogicalSource.read ⟨"t.au3".toList, false⟩
      "if $a then func f() -> if $b then g()".toList =
        .ok ⟨nestedTexts.map (⟨·, .line "t.au3".toList 1⟩), 1⟩ := by
    decide +kernel
  rcases block_forms ⟨"t.au3".toList, false⟩ with ⟨-, hline, hsource⟩
  exact ⟨_, _, _, rfl, rfl, hemit, hread, hline _ _ _ hemit, hsource _ _ hread⟩

/-! ## Functions one behind the other -/

/-- Whether two lines stand one behind the other, or came of one line that does not end a function at
the first one to begin another at the second one. -/
def LogicalLine.Apart (a b : LogicalLine) : Prop :=
  a.span.last < b.span.first ∨
    (a.span = b.span ∧ (LineRule.classify a.text = some .endFunc →
      ∀ hd, LineRule.classify b.text ≠ some (.func hd)))

theorem LogicalSource.apart_of_read (h : read m content = .ok source) :
    source.lines.Pairwise LogicalLine.Apart := by
  rcases fallsIntoBlocks_of_read h with ⟨es, heq, hblocks, hordered⟩
  rw [heq, List.pairwise_flatMap]
  constructor
  · -- within a block form
    intro e he
    rcases (hblocks e he).2 with ⟨line, hform⟩
    rw [Expansion.lines, List.pairwise_map]
    refine hform.pairwise_classify.imp ?_
    intro a b hab
    exact .inr ⟨rfl, hab⟩
  · -- and from one to another
    refine hordered.imp ?_
    intro e e' hlt a ha b hb
    rcases List.mem_map.1 ha with ⟨t, -, rfl⟩
    rcases List.mem_map.1 hb with ⟨t', -, rfl⟩
    exact .inl hlt

end ScriptScan
