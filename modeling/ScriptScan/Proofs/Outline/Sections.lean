import Mathlib.Data.List.Forall2
import ScriptScan.Proofs.Outline.Functions
import ScriptScan.Proofs.Func.LineTable

/-!
# The sections of a source

The lines of a source fall into sections: some lines outside of functions, the line that begins a
function, the lines inside, and the line that ends it. Behind the last section only lines outside
are left.

* `Layout` is a list of sections with the rest behind them; `Layout.WellFormed` says that each line
  is of the kind that its place asks for.
* `FuncDecl.fill` gives some lines to a function, and `LogicalLine.content?` is what a line leaves in a
  body.
* `Outline.FilledBy` is the invariant: the lines that have been read have a layout, and each function
  has been given the lines of its section, in that order. `Outline.LaidOut` is what it says of bodies.
* `Script.ofSource_filled` is what that makes of a script, and `Script.ofSource_layout` what that says
  of bodies.
-/

namespace ScriptScan

/-! ## Lines -/

namespace LogicalLine

/-- Whether a line begins or ends a function. -/
def IsBoundary (l : LogicalLine) : Prop :=
  (∃ h, LineRule.classify l.text = some (.func h)) ∨ LineRule.classify l.text = some .endFunc

/-- What a line leaves in a body: a line that no rule reads leaves itself, a label leaves an empty
line in its place, and all others leave nothing. -/
def content? (l : LogicalLine) : Option LogicalLine :=
  match LineRule.classify l.text with
  | none => some l
  | some (.label _) => some ⟨[], l.span⟩
  | some _ => none

theorem span_of_content? {l l' : LogicalLine} (h : l.content? = some l') : l'.span = l.span := by
  unfold content? at h
  split at h
  · cases h
    rfl
  · cases h
    rfl
  · cases h

end LogicalLine

/-! ## What a function is given -/

namespace FuncDecl

variable {f : FuncDecl} {l : LogicalLine}

/-- The function with what a line adds to it: the line itself if no rule reads it, or a label. -/
def take (f : FuncDecl) (l : LogicalLine) : FuncDecl :=
  match LineRule.classify l.text with
  | none => f.addLine l
  | some (.label name) => f.addLabel name l.span
  | some _ => f

/-- The function with what some lines add to it. -/
def fill (f : FuncDecl) (ls : List LogicalLine) : FuncDecl :=
  ls.foldl take f

theorem fill_append (f : FuncDecl) (ls ls' : List LogicalLine) :
    f.fill (ls ++ ls') = (f.fill ls).fill ls' :=
  List.foldl_append

theorem bare_take (f : FuncDecl) (l : LogicalLine) : (f.take l).bare = f.bare := by
  unfold take
  split
  · exact bare_addLine f l
  · exact bare_addLabel f _ _
  · rfl

theorem table_take (f : FuncDecl) (l : LogicalLine) :
    (f.take l).table = l.content?.toList.foldl .add f.table := by
  unfold take LogicalLine.content?
  split <;> rfl

/-- What a function is from its declaration no line changes. -/
theorem bare_fill (f : FuncDecl) (ls : List LogicalLine) : (f.fill ls).bare = f.bare := by
  induction ls generalizing f with
  | nil => rfl
  | cons l ls ih => exact (ih (f.take l)).trans (bare_take f l)

/-- The body of a function gets what the lines leave. -/
theorem table_fill (f : FuncDecl) (ls : List LogicalLine) :
    (f.fill ls).table = (ls.filterMap LogicalLine.content?).foldl .add f.table := by
  induction ls generalizing f with
  | nil => rfl
  | cons l ls ih =>
    rw [fill, List.foldl_cons, ← fill, ih, table_take]
    cases h : l.content? <;> simp [h]

end FuncDecl

/-! ## Sections -/

/-- A function of a source, with the lines outside of functions that stand before it. -/
structure FuncSection where
  before : List LogicalLine
  opening : LogicalLine
  header : FuncHeader
  inner : List LogicalLine
  closing : LogicalLine

namespace FuncSection

/-- The lines of a section, in order. -/
def lines (sec : FuncSection) : List LogicalLine :=
  sec.before ++ sec.opening :: sec.inner ++ [sec.closing]

/-- What the lines inside leave in the body. -/
def body (sec : FuncSection) : List LogicalLine :=
  sec.inner.filterMap LogicalLine.content?

/-- The function that a section makes in a script, with the parameters that were read out of its
header. -/
def decl (sec : FuncSection) (path : Path) (params : List Param) : FuncDecl :=
  (FuncDecl.ofHeader sec.header path sec.opening.span params).fill sec.inner

/-- Whether a function of a script is made by a section. -/
def Makes (path : Path) (f : FuncDecl) (sec : FuncSection) : Prop :=
  ∃ params, f = sec.decl path params

/-- A section gives its function a name, a place and a body. -/
theorem map_of_makes {path : Path} {fs : List FuncDecl} {secs : List FuncSection}
    (h : List.Forall₂ (Makes path) fs secs) :
    fs.map (fun f => (f.name, f.declaredAt, f.table)) =
      secs.map fun sec => (sec.header.name, sec.opening.span, .ofLines sec.body) := by
  rw [← List.forall₂_eq_eq_eq, List.forall₂_map_left_iff, List.forall₂_map_right_iff]
  refine h.imp ?_
  rintro f sec ⟨params, rfl⟩
  have hbare := FuncDecl.bare_fill (.ofHeader sec.header path sec.opening.span params) sec.inner
  have hname : (sec.decl path params).name = sec.header.name := congrArg FuncDecl.name hbare
  have hat : (sec.decl path params).declaredAt = sec.opening.span :=
    congrArg FuncDecl.declaredAt hbare
  have htable : (sec.decl path params).table = .ofLines sec.body := FuncDecl.table_fill _ _
  rw [hname, hat, htable]

/-- Of functions and sections that go together each function has a section. -/
theorem exists_of_mem {R : FuncDecl → FuncSection → Prop} {fs : List FuncDecl}
    {secs : List FuncSection} (h : List.Forall₂ R fs secs) {f : FuncDecl} (hf : f ∈ fs) :
    ∃ sec ∈ secs, R f sec := by
  rcases List.mem_iff_getElem.1 hf with ⟨i, hi, rfl⟩
  have hi' : i < secs.length := h.length_eq ▸ hi
  exact ⟨secs[i], List.getElem_mem hi', h.get hi hi'⟩

/-- Whether the function begins and ends where its section says, and only there. -/
structure WellFormed (sec : FuncSection) : Prop where
  opening_eq : LineRule.classify sec.opening.text = some (.func sec.header)
  closing_eq : LineRule.classify sec.closing.text = some .endFunc
  before_plain : ∀ l ∈ sec.before, ¬l.IsBoundary
  inner_plain : ∀ l ∈ sec.inner, ¬l.IsBoundary

end FuncSection

/-- The sections of a source, and the lines behind them. -/
structure Layout where
  sections : List FuncSection
  tail : List LogicalLine

namespace Layout

/-- All lines, in order. -/
def lines (lay : Layout) : List LogicalLine :=
  lay.sections.flatMap FuncSection.lines ++ lay.tail

/-- The lines outside of functions. -/
def outside (lay : Layout) : List LogicalLine :=
  lay.sections.flatMap FuncSection.before ++ lay.tail

/-- What the lines outside of functions leave in the body of the main function. -/
def mainBody (lay : Layout) : List LogicalLine :=
  lay.outside.filterMap LogicalLine.content?

/-- Whether each line is of the kind that its place asks for. -/
structure WellFormed (lay : Layout) : Prop where
  sections_wf : ∀ sec ∈ lay.sections, sec.WellFormed
  tail_plain : ∀ l ∈ lay.tail, ¬l.IsBoundary

/-- The layout with one more line behind the last section. -/
def snoc (lay : Layout) (l : LogicalLine) : Layout :=
  { lay with tail := lay.tail ++ [l] }

/-- The layout with a function behind the lines that stand at its end. -/
def close (lay : Layout) (opening : LogicalLine) (header : FuncHeader)
    (inner : List LogicalLine) (closing : LogicalLine) : Layout :=
  ⟨lay.sections ++ [⟨lay.tail, opening, header, inner, closing⟩], []⟩

variable {lay : Layout} {l opening closing : LogicalLine} {header : FuncHeader}
  {inner : List LogicalLine}

theorem lines_snoc : (lay.snoc l).lines = lay.lines ++ [l] := by
  simp [lines, snoc]

theorem outside_snoc : (lay.snoc l).outside = lay.outside ++ [l] := by
  simp [outside, snoc]

theorem WellFormed.snoc (h : lay.WellFormed) (hl : ¬l.IsBoundary) : (lay.snoc l).WellFormed :=
  ⟨h.sections_wf, List.forall_mem_append.2 ⟨h.tail_plain, by simpa using hl⟩⟩

theorem lines_close : (lay.close opening header inner closing).lines =
    lay.lines ++ opening :: inner ++ [closing] := by
  simp [lines, close, FuncSection.lines]

theorem outside_close : (lay.close opening header inner closing).outside = lay.outside := by
  simp [outside, close]

theorem WellFormed.close (h : lay.WellFormed)
    (hopening : LineRule.classify opening.text = some (.func header))
    (hinner : ∀ l ∈ inner, ¬l.IsBoundary)
    (hclosing : LineRule.classify closing.text = some .endFunc) :
    (lay.close opening header inner closing).WellFormed := by
  refine ⟨List.forall_mem_append.2 ⟨h.sections_wf, ?_⟩, by simp [Layout.close]⟩
  intro sec hsec
  rw [List.mem_singleton.1 hsec]
  exact ⟨hopening, hclosing, h.tail_plain, hinner⟩

/-- The lines that begin functions are those at the openings of the sections. -/
theorem WellFormed.opening_iff (h : lay.WellFormed) :
    l ∈ lay.lines ∧ LineRule.classify l.text = some (.func header) ↔
      ∃ sec ∈ lay.sections, sec.opening = l ∧ sec.header = header := by
  constructor
  · rintro ⟨hl, hc⟩
    have hboundary : l.IsBoundary := .inl ⟨header, hc⟩
    rcases List.mem_append.1 hl with hl | hl
    · obtain ⟨sec, hsec, hl⟩ := List.mem_flatMap.1 hl
      have hwf := h.sections_wf sec hsec
      simp only [FuncSection.lines, List.mem_append, List.mem_cons, List.not_mem_nil,
        or_false] at hl
      rcases hl with (hbefore | rfl | hinner) | rfl
      · exact absurd hboundary (hwf.before_plain l hbefore)
      · rw [hwf.opening_eq] at hc
        cases hc
        exact ⟨sec, hsec, rfl, rfl⟩
      · exact absurd hboundary (hwf.inner_plain l hinner)
      · rw [hwf.closing_eq] at hc
        cases hc
    · exact absurd hboundary (h.tail_plain l hl)
  · rintro ⟨sec, hsec, rfl, rfl⟩
    refine ⟨List.mem_append_left _ (List.mem_flatMap.2 ⟨sec, hsec, ?_⟩),
      (h.sections_wf sec hsec).opening_eq⟩
    simp [FuncSection.lines]

end Layout

/-! ## What one line does -/

namespace Outline

variable {ctx : ScanContext} {path : Path} {o o' : Outline} {l : LogicalLine}

theorem setCurrent_current (o : Outline) : o.setCurrent o.current = o := by
  cases h : o.open? with
  | none => rw [setCurrent_of_main h, current_of_main h]
  | some f =>
    rw [setCurrent_of_open h, current_of_open h, ← h]

/-- A line that neither begins nor ends a function is given to the current function, and touches no
other one. -/
theorem Step.fills (hs : Step ctx o l o') (hl : ¬l.IsBoundary) :
    o'.closed = o.closed ∧ o'.open? = (o.setCurrent (o.current.take l)).open? ∧
      o'.main = (o.setCurrent (o.current.take l)).main := by
  have hnothing : o.current.take l = o.current → o'.closed = o.closed → o'.open? = o.open? →
      o'.main = o.main → o'.closed = o.closed ∧
        o'.open? = (o.setCurrent (o.current.take l)).open? ∧
        o'.main = (o.setCurrent (o.current.take l)).main := by
    intro htake hclosed hopen hmain
    rw [htake, setCurrent_current]
    exact ⟨hclosed, hopen, hmain⟩
  cases hs with
  | body hc =>
    have htake : o.current.take l = o.current.addLine l := by simp [FuncDecl.take, hc]
    rw [htake]
    exact ⟨by simp, rfl, rfl⟩
  | label name hc hstrict hnew =>
    have htake : o.current.take l = o.current.addLabel name l.span := by simp [FuncDecl.take, hc]
    rw [htake]
    exact ⟨by simp, rfl, rfl⟩
  | includeOnce hc => exact hnothing (by simp [FuncDecl.take, hc]) rfl rfl rfl
  | startupHook func hc => exact hnothing (by simp [FuncDecl.take, hc]) rfl rfl rfl
  | exitHook func hc => exact hnothing (by simp [FuncDecl.take, hc]) rfl rfl rfl
  | pragma d hc hd => exact hnothing (by simp [FuncDecl.take, hc]) rfl rfl rfl
  | beginFunc h params hc hopen hname hfree hparams hcheck => exact absurd (.inl ⟨h, hc⟩) hl
  | endFunc f hc hopen => exact absurd (.inr hc) hl

/-! ## The invariant -/

/-- The lines that have been read have a layout, and each function has been given the lines of its
section. -/
inductive FilledBy (path : Path) (o : Outline) : List LogicalLine → Prop where
  | outside (lay : Layout) (hwf : lay.WellFormed)
      (hclosed : List.Forall₂ (FuncSection.Makes path) (o.closed.map (·.2)) lay.sections)
      (hmain : o.main = (FuncDecl.main path).fill lay.outside)
      (hopen : o.open? = none) : FilledBy path o lay.lines
  | inside (lay : Layout) (opening : LogicalLine) (header : FuncHeader) (inner : List LogicalLine)
      (params : List Param) (hwf : lay.WellFormed)
      (hopening : LineRule.classify opening.text = some (.func header))
      (hinner : ∀ l ∈ inner, ¬l.IsBoundary)
      (hclosed : List.Forall₂ (FuncSection.Makes path) (o.closed.map (·.2)) lay.sections)
      (hmain : o.main = (FuncDecl.main path).fill lay.outside)
      (hopen : o.open? = some ((FuncDecl.ofHeader header path opening.span params).fill inner)) :
      FilledBy path o (lay.lines ++ opening :: inner)

theorem filledBy_empty (path : Path) : (empty path).FilledBy path [] :=
  .outside ⟨[], []⟩ ⟨by simp, by simp⟩ .nil rfl rfl

/-- A line that is given to the current function. -/
theorem FilledBy.plain {pre : List LogicalLine} (h : o.FilledBy path pre) (hs : Step ctx o l o')
    (hl : ¬l.IsBoundary) : o'.FilledBy path (pre ++ [l]) := by
  rcases hs.fills hl with ⟨hclosed', hopen', hmain'⟩
  cases h with
  | outside lay hwf hclosed hmain hopen =>
    -- the line goes to the main function
    rw [setCurrent_of_main hopen, current_of_main hopen] at hopen' hmain'
    rw [← Layout.lines_snoc]
    refine .outside (lay.snoc l) (hwf.snoc hl) (hclosed' ▸ hclosed) ?_ (hopen'.trans hopen)
    rw [Layout.outside_snoc, FuncDecl.fill_append, ← hmain]
    exact hmain'
  | inside lay opening header inner params hwf hopening hinner hclosed hmain hopen =>
    -- the line goes to the function that is open, and the main function stays as it is
    rw [setCurrent_of_open hopen, current_of_open hopen] at hopen' hmain'
    rw [List.append_assoc, List.cons_append]
    refine .inside lay opening header (inner ++ [l]) params hwf hopening ?_ (hclosed' ▸ hclosed)
      (hmain'.trans hmain) ?_
    · exact List.forall_mem_append.2 ⟨hinner, by simpa using hl⟩
    · rw [FuncDecl.fill_append]
      exact hopen'

/-- Every line keeps the invariant. -/
theorem Step.filledBy {pre : List LogicalLine} (hs : Step ctx o l o') (hpath : o.path = path)
    (h : o.FilledBy path pre) : o'.FilledBy path (pre ++ [l]) := by
  by_cases hl : l.IsBoundary
  · cases hs with
    | beginFunc hd params hc hopen hname hfree hparams hcheck =>
      -- the lines at the end of the layout are those before the new function
      cases h with
      | outside lay hwf hclosed hmain hopen' =>
        refine .inside lay l hd [] params hwf hc (by simp) hclosed hmain ?_
        rw [hpath]
        rfl
      | inside lay opening header inner params' hwf hopening hinner hclosed hmain hopen' =>
        rw [hopen] at hopen'
        cases hopen'
    | endFunc f hc hopen =>
      -- the function and the lines before it become a section
      cases h with
      | outside lay hwf hclosed hmain hopen' =>
        rw [hopen] at hopen'
        cases hopen'
      | inside lay opening header inner params hwf hopening hinner hclosed hmain hopen' =>
        rw [hopen] at hopen'
        cases hopen'
        have hlines : (lay.close opening header inner l).lines = _ := Layout.lines_close
        rw [← hlines]
        refine .outside (lay.close opening header inner l) (hwf.close hopening hinner hc) ?_ ?_ rfl
        · rw [List.map_append]
          exact List.rel_append hclosed (.cons ⟨params, rfl⟩ .nil)
        · rw [Layout.outside_close]
          exact hmain
    | body hc => simp [LogicalLine.IsBoundary, hc] at hl
    | includeOnce hc => simp [LogicalLine.IsBoundary, hc] at hl
    | startupHook func hc => simp [LogicalLine.IsBoundary, hc] at hl
    | exitHook func hc => simp [LogicalLine.IsBoundary, hc] at hl
    | pragma d hc hd => simp [LogicalLine.IsBoundary, hc] at hl
    | label name hc hstrict hnew => simp [LogicalLine.IsBoundary, hc] at hl
  · exact h.plain hs hl

theorem filledBy_of_run {ls : List LogicalLine} (h : run ctx (empty path) ls = .ok o) :
    o.FilledBy path ls := by
  have hboth : o.path = path ∧ o.FilledBy path ls := by
    refine run_induction (P := fun pre o => o.path = path ∧ o.FilledBy path pre) ?_
      ⟨rfl, filledBy_empty path⟩ h
    rintro pre o l o' ⟨hpath, h⟩ hs
    exact ⟨hs.path_eq.trans hpath, hs.filledBy hpath h⟩
  exact hboth.2

/-! ## Bodies -/

/-- The ended functions: their names, where they were declared, and their lines. -/
def closedTables (o : Outline) : List (Text × Span × LineTable) :=
  o.closed.map fun e => (e.2.name, e.2.declaredAt, e.2.table)

/-- The lines that have been read have a layout, and each function holds what its lines leave. -/
inductive LaidOut (o : Outline) : List LogicalLine → Prop where
  | outside (lay : Layout) (hwf : lay.WellFormed)
      (hclosed : o.closedTables =
        lay.sections.map fun sec => (sec.header.name, sec.opening.span, .ofLines sec.body))
      (hmain : o.main.table = .ofLines lay.mainBody)
      (hopen : o.open? = none) : LaidOut o lay.lines
  | inside (lay : Layout) (opening : LogicalLine) (header : FuncHeader) (inner : List LogicalLine)
      (f : FuncDecl) (hwf : lay.WellFormed)
      (hopening : LineRule.classify opening.text = some (.func header))
      (hinner : ∀ l ∈ inner, ¬l.IsBoundary)
      (hclosed : o.closedTables =
        lay.sections.map fun sec => (sec.header.name, sec.opening.span, .ofLines sec.body))
      (hmain : o.main.table = .ofLines lay.mainBody)
      (hopen : o.open? = some f)
      (hname : f.name = header.name)
      (hat : f.declaredAt = opening.span)
      (htable : f.table = .ofLines (inner.filterMap LogicalLine.content?)) :
      LaidOut o (lay.lines ++ opening :: inner)

/-- While no function is open, the ended functions are those that the lines begin. -/
theorem LaidOut.declares_iff {pre : List LogicalLine} (h : o.LaidOut pre) (hopen : o.open? = none)
    {name : Text} {span : Span} :
    (∃ e ∈ o.closed, e.2.name = name ∧ e.2.declaredAt = span) ↔
      ∃ l ∈ pre, ∃ hd, LineRule.classify l.text = some (.func hd) ∧ hd.name = name ∧
        l.span = span := by
  cases h with
  | inside lay opening header inner f hwf hopening hinner hclosed hmain hopen' =>
    rw [hopen] at hopen'
    cases hopen'
  | outside lay hwf hclosed hmain hopen' =>
    have hsections : (∃ e ∈ o.closed, e.2.name = name ∧ e.2.declaredAt = span) ↔
        ∃ sec ∈ lay.sections, sec.header.name = name ∧ sec.opening.span = span := by
      have hplaces := congrArg (List.map fun t => (t.1, t.2.1)) hclosed
      rw [closedTables, List.map_map, List.map_map] at hplaces
      have hmem := congrArg ((name, span) ∈ ·) hplaces
      simpa using hmem
    rw [hsections]
    constructor
    · rintro ⟨sec, hsec, rfl, rfl⟩
      obtain ⟨hl, hc⟩ := hwf.opening_iff.2 ⟨sec, hsec, rfl, rfl⟩
      exact ⟨sec.opening, hl, sec.header, hc, rfl, rfl⟩
    · rintro ⟨l, hl, hd, hc, rfl, rfl⟩
      obtain ⟨sec, hsec, rfl, rfl⟩ := hwf.opening_iff.1 ⟨hl, hc⟩
      exact ⟨sec, hsec, rfl, rfl⟩

/-- What is given to a function is what its body holds. -/
theorem FilledBy.laidOut {pre : List LogicalLine} (h : o.FilledBy path pre) : o.LaidOut pre := by
  have htables : ∀ {secs : List FuncSection},
      List.Forall₂ (FuncSection.Makes path) (o.closed.map (·.2)) secs → o.closedTables =
        secs.map fun sec => (sec.header.name, sec.opening.span, .ofLines sec.body) := by
    intro secs hclosed
    rw [← FuncSection.map_of_makes hclosed, List.map_map]
    rfl
  cases h with
  | outside lay hwf hclosed hmain hopen =>
    refine .outside lay hwf (htables hclosed) ?_ hopen
    rw [hmain]
    exact FuncDecl.table_fill _ _
  | inside lay opening header inner params hwf hopening hinner hclosed hmain hopen =>
    have hbare := FuncDecl.bare_fill (.ofHeader header path opening.span params) inner
    refine .inside lay opening header inner _ hwf hopening hinner (htables hclosed) ?_ hopen
      (congrArg FuncDecl.name hbare) (congrArg FuncDecl.declaredAt hbare)
      (FuncDecl.table_fill _ _)
    rw [hmain]
    exact FuncDecl.table_fill _ _

theorem laidOut_of_run {ls : List LogicalLine} (h : run ctx (empty path) ls = .ok o) :
    o.LaidOut ls :=
  (filledBy_of_run h).laidOut

end Outline

/-! ## Scripts -/

/-- A script holds one function for each section of its source, and the main function; each of them
has been given the lines of its section, and the main function those outside. -/
theorem Script.ofSource_filled {ctx : ScanContext} {path : Path} {source : LogicalSource}
    {s : Script} (h : ofSource ctx path source = .ok s) :
    ∃ (lay : Layout) (decls : List FuncDecl), lay.lines = source.lines ∧ lay.WellFormed ∧
      s.Holds path decls ((FuncDecl.main path).fill lay.outside) ∧
      List.Forall₂ (FuncSection.Makes path) decls lay.sections := by
  rcases ofSource_eq_ok_iff.1 h with ⟨o, hrun, hopen, rfl⟩
  have hholds := holds_make (Outline.declares_of_run hrun) hopen
  have hfilled := Outline.filledBy_of_run hrun
  generalize hls : source.lines = ls at hfilled
  cases hfilled with
  | outside lay hwf hclosed hmain hopen' =>
    rw [hmain] at hholds
    exact ⟨lay, _, rfl, hwf, hholds, hclosed⟩
  | inside lay opening header inner params hwf hopening hinner hclosed hmain hopen' =>
    rw [hopen] at hopen'
    cases hopen'

/-- The lines of each function are those that its section leaves, kept under their spans. -/
theorem Script.ofSource_layout {ctx : ScanContext} {path : Path} {source : LogicalSource}
    {s : Script} (h : ofSource ctx path source = .ok s) :
    ∃ (lay : Layout) (decls : List FuncDecl) (main : FuncDecl),
      lay.lines = source.lines ∧ lay.WellFormed ∧ s.Holds path decls main ∧
      decls.map (fun f => (f.name, f.declaredAt, f.table)) =
        lay.sections.map (fun sec => (sec.header.name, sec.opening.span, .ofLines sec.body)) ∧
      main.table = .ofLines lay.mainBody := by
  rcases ofSource_filled h with ⟨lay, decls, hlines, hwf, hholds, hmakes⟩
  exact ⟨lay, decls, _, hlines, hwf, hholds, FuncSection.map_of_makes hmakes,
    FuncDecl.table_fill _ _⟩

end ScriptScan
