import ScriptScan.Proofs.Catalog.Bodies
import ScriptScan.Proofs.Catalog.Read
import ScriptScan.Proofs.Source.Blocks

/-!
# Where the functions of a script stand

The span of a function is told by the first and the last of the spans that its body is kept under. It
covers the body, because the lines of a source never go back. And no two functions of a script share a
line, because what a line of the source becomes never ends one function and begins another.

* `FuncDecl.EndsBefore` says that one function ends before another one begins; `FuncDecl.Placed` says
  where a function stands.
* `Layout.sections_behind` — the functions of a source stand one behind the other.
* `Script.WellPlaced` says where the functions of a script stand, and `Catalog.functions_placed` is the
  conclusion.
-/

namespace ScriptScan

/-! ## Functions -/

/-- Whether a function, with its declaration and all of its body, ends on an earlier line of the file
than the one on which another function begins. -/
structure FuncDecl.EndsBefore (f g : FuncDecl) : Prop where
  file_eq : f.declaredAt.file = g.declaredAt.file
  declared : f.declaredAt.last < g.declaredAt.first
  body : ∀ l ∈ f.body, l.span.last < g.declaredAt.first

/-- Whether a function stands in a file as it should: its span covers its body, and no line of the
body is elsewhere or begins before the declaration. -/
structure FuncDecl.Placed (f : FuncDecl) (file : Text) : Prop where
  covers : f.Covers
  declared_file : f.declaredAt.file = file
  body_file : ∀ l ∈ f.body, l.span.file = file
  begins : ∀ l ∈ f.body, f.declaredAt.first ≤ l.span.first

namespace FuncDecl.WrittenAs

variable {f g : FuncDecl} {opening opening' : LogicalLine} {ls ls' : List LogicalLine}

theorem placed (h : f.WrittenAs opening ls) : f.Placed opening.span.file := by
  rcases covers_of_ordered h.table_eq (List.pairwise_cons.1 h.ordered).2
    (fun l hl => h.one_file l (List.mem_cons_of_mem _ hl))
    (fun l hl => h.first_le_last l (List.mem_cons_of_mem _ hl)) with ⟨hbody, hcovers⟩
  refine ⟨hcovers, congrArg Span.file h.declaredAt_eq, ?_, ?_⟩
  · intro l hl
    rw [hbody] at hl
    exact h.one_file l (List.mem_cons_of_mem _ hl)
  · intro l hl
    rw [hbody] at hl
    rw [h.declaredAt_eq]
    exact LogicalLine.first_le_of_head h.ordered (h.first_le_last opening List.mem_cons_self) l
      (List.mem_cons_of_mem _ hl)

/-- A function ends before another one if its lines do. -/
theorem endsBefore (h : f.WrittenAs opening ls) (h' : g.WrittenAs opening' ls')
    (hfile : opening.span.file = opening'.span.file)
    (hlast : ∀ l ∈ opening :: ls, l.span.last < opening'.span.first) : f.EndsBefore g := by
  rw [← h.declaredAt_eq, ← h'.declaredAt_eq] at hfile
  rw [← h'.declaredAt_eq] at hlast
  refine ⟨hfile, ?_, ?_⟩
  · rw [h.declaredAt_eq]
    exact hlast opening List.mem_cons_self
  · intro l hl
    rw [h.body_eq] at hl
    exact hlast l (List.mem_cons_of_mem _ hl)

end FuncDecl.WrittenAs

/-! ## Sections -/

/-- Whether the function of a section ends on an earlier line than the one on which that of another
section begins. -/
def FuncSection.Behind (a b : FuncSection) : Prop :=
  ∀ l ∈ a.opening :: a.inner, l.span.last < b.opening.span.first

/-- No line of a function ends behind the line that ends the function. -/
theorem FuncSection.last_le_closing {sec : FuncSection} (h : sec.lines.Pairwise LogicalLine.Apart)
    (hfirst : sec.closing.span.first ≤ sec.closing.span.last) :
    ∀ l ∈ sec.opening :: sec.inner, l.span.last ≤ sec.closing.span.last := by
  intro l hl
  have hmem : l ∈ sec.before ++ sec.opening :: sec.inner := List.mem_append_right _ hl
  rcases (List.pairwise_append.1 h).2.2 l hmem sec.closing (by simp) with hlt | ⟨heq, -⟩
  · omega
  · exact Nat.le_of_eq (congrArg Span.last heq)

/-- The functions of a source stand one behind the other: the line that ends the first one and the
line that begins the second one did not come of one line. -/
theorem Layout.sections_behind {lay : Layout} (hwf : lay.WellFormed)
    (h : lay.lines.Pairwise LogicalLine.Apart)
    (hfirst : ∀ l ∈ lay.lines, l.span.first ≤ l.span.last) :
    lay.sections.Pairwise FuncSection.Behind := by
  rcases List.pairwise_flatMap.1 (List.pairwise_append.1 h).1 with ⟨hwithin, hbetween⟩
  refine hbetween.imp_of_mem ?_
  intro a b ha hb hab l hl
  have hclosing : a.closing ∈ a.lines := by simp [FuncSection.lines]
  have hopening : b.opening ∈ b.lines := by simp [FuncSection.lines]
  have hmem : a.closing ∈ lay.lines :=
    List.mem_append_left _ (List.mem_flatMap.2 ⟨a, ha, hclosing⟩)
  have hlast := FuncSection.last_le_closing (hwithin a ha) (hfirst _ hmem) l hl
  rcases hab a.closing hclosing b.opening hopening with hlt | ⟨-, hnot⟩
  · omega
  · exact absurd (hwf.sections_wf b hb).opening_eq
      (hnot (hwf.sections_wf a ha).closing_eq b.header)

/-- Functions end one before the other if their sections do. -/
theorem FuncSection.pairwise_endsBefore {decls : List FuncDecl} {secs : List FuncSection}
    {file : Text}
    (h : List.Forall₂ (fun f sec => f.WrittenAs sec.opening sec.body) decls secs)
    (hfile : ∀ sec ∈ secs, sec.opening.span.file = file) (hbehind : secs.Pairwise Behind) :
    decls.Pairwise FuncDecl.EndsBefore := by
  induction h with
  | nil => exact .nil
  | @cons f sec decls secs hf hrest ih =>
    rcases List.pairwise_cons.1 hbehind with ⟨hsec, hsecs⟩
    rcases List.forall_mem_cons.1 hfile with ⟨hsecFile, hsecsFile⟩
    refine List.pairwise_cons.2 ⟨?_, ih hsecsFile hsecs⟩
    intro g hg
    rcases exists_of_mem hrest hg with ⟨sec', hsec', hg⟩
    rcases List.forall_mem_cons.1 (hsec sec' hsec') with ⟨hopening, hinner⟩
    refine hf.endsBefore hg (hsecFile.trans (hsecsFile sec' hsec').symm) ?_
    exact List.forall_mem_cons.2 ⟨hopening, LogicalLine.forall_content
      (p := fun span => span.last < sec'.opening.span.first) hinner⟩

/-! ## Scripts -/

/-- Whether the functions of a script stand where they should: all of them are declared and placed in
the file of the script, and of two different ones that are declared in the source one ends before the
other one begins. -/
structure Script.WellPlaced (s : Script) : Prop where
  declared : ∀ g ∈ s.functions.funcs, ∃ f, g = .declared f
  placed : ∀ f, .declared f ∈ s.functions.funcs → f.Placed s.path.text
  apart : ∀ f g, .declared f ∈ s.publicFuncs → .declared g ∈ s.publicFuncs → f ≠ g →
    f.EndsBefore g ∨ g.EndsBefore f

/-- What a script holds is well placed if each function is, and those of the source end one before the
other. -/
theorem Script.Holds.wellPlaced {s : Script} {path : Path} {decls : List FuncDecl} {main : FuncDecl}
    (h : s.Holds path decls main) (hdecls : ∀ f ∈ decls, f.Placed path.text)
    (hmain : main.Placed path.text) (hends : decls.Pairwise FuncDecl.EndsBefore) :
    s.WellPlaced := by
  constructor
  · intro g hg
    rw [h.funcs_eq] at hg
    rcases List.mem_map.1 hg with ⟨f, -, rfl⟩
    exact ⟨f, rfl⟩
  · intro f hf
    rw [h.funcs_eq] at hf
    rcases List.mem_map.1 hf with ⟨f', hf', heq⟩
    cases heq
    rw [h.path_eq]
    rcases List.mem_append.1 hf' with hdecl | hmain'
    · exact hdecls f hdecl
    · rw [List.mem_singleton.1 hmain']
      exact hmain
  · intro f g hf hg hne
    rw [h.publicFuncs_eq] at hf hg
    rcases List.mem_map.1 hf with ⟨f', hf', heq⟩
    rcases List.mem_map.1 hg with ⟨g', hg', heq'⟩
    cases heq
    cases heq'
    have heither : decls.Pairwise fun f g => f.EndsBefore g ∨ g.EndsBefore f := hends.imp .inl
    have hsymm : Std.Symm fun f g : FuncDecl => f.EndsBefore g ∨ g.EndsBefore f :=
      ⟨fun _ _ => Or.symm⟩
    exact heither.forall hf' hg' hne

/-- The main function stands in the file from its first line on. -/
theorem FuncDecl.placed_main {path : Path} {main : FuncDecl} {ls lines : List LogicalLine} {hi : Nat}
    (hmain : main.bare = .main path)
    (htable : main.table = .ofLines (ls.filterMap LogicalLine.content?)) (hsub : ls.Sublist lines)
    (hinside : ∀ l ∈ lines, l.span.Inside path.text 1 hi)
    (hordered : lines.Pairwise LogicalLine.Precedes) : main.Placed path.text := by
  have hat : main.declaredAt = .line path.text 1 := congrArg FuncDecl.declaredAt hmain
  rcases covers_of_sublist htable hsub hinside hordered with ⟨hbody, hcovers⟩
  have hplaced : ∀ l ∈ main.body, l.span.Inside path.text 1 hi := by
    rw [hbody]
    exact LogicalLine.forall_content fun l hl => hinside l (hsub.subset hl)
  refine ⟨hcovers, congrArg Span.file hat, fun l hl => (hplaced l hl).file_eq, ?_⟩
  intro l hl
  rw [hat]
  exact (hplaced l hl).le_first

theorem Script.wellPlaced_of_ofSource {ctx : ScanContext} {path : Path} {strict : Bool}
    {content : Text} {source : LogicalSource} {s : Script}
    (hread : LogicalSource.read ⟨path.text, strict⟩ content = .ok source)
    (h : ofSource ctx path source = .ok s) : s.WellPlaced := by
  rcases ofSource_written hread h with ⟨lay, decls, main, hlines, hwf, hholds, hwritten, hmain⟩
  rcases LogicalSource.inside_of_read hread with ⟨-, hinside⟩
  have hordered := LogicalSource.ordered_of_read hread
  have hapart := LogicalSource.apart_of_read hread
  rw [← hlines] at hinside hordered hapart
  have hfile : ∀ sec ∈ lay.sections, sec.opening.span.file = path.text := by
    intro sec hsec
    exact (hinside _ ((Layout.opening_sublist hsec).subset List.mem_cons_self)).file_eq
  have hbehind := Layout.sections_behind hwf hapart fun l hl => (hinside l hl).first_le_last
  refine hholds.wellPlaced ?_ ?_ (FuncSection.pairwise_endsBefore hwritten hfile hbehind)
  · intro f hf
    rcases FuncSection.exists_of_mem hwritten hf with ⟨sec, hsec, hf⟩
    rw [← hfile sec hsec]
    exact hf.placed
  · exact FuncDecl.placed_main hholds.main_eq hmain lay.outside_sublist hinside hordered

/-! ## Scans -/

namespace Catalog

/-- Where functions stand does not depend on the state of the script. -/
theorem wellPlaced_of_isRead {s : Script} (h : s.unloaded.IsRead) : s.WellPlaced := by
  rcases h with ⟨c, setup, key, content, hread⟩
  rcases exists_source_of_read hread with ⟨source, hsource, hscript⟩
  have hplaced := Script.wellPlaced_of_ofSource hsource hscript
  exact ⟨hplaced.declared, hplaced.placed, hplaced.apart⟩

/-- The functions of every script that was scanned are well placed: the span of each one runs from the
smallest first line of its body to the greatest last line, or is that of its declaration if there is
no body; no line of a body begins before the declaration; and of two functions that are declared in
the source one ends before the other one begins. -/
theorem functions_placed (hostFuncs : List HostFunc) (c : Catalog) (h : Reachable hostFuncs c) :
    (∀ e ∈ c.scripts, e.2.WellPlaced) ∧
      ∀ call s, (c.serve call).2 = .ok (.script s) → s.WellPlaced := by
  constructor
  · intro e he
    exact wellPlaced_of_isRead (h.isRead e he)
  · intro call s hserve
    exact wellPlaced_of_isRead (h.isRead_of_serve hserve)

/-- A call that scans a script with a function on one line, and with a longer one behind it. -/
def placedCall : Call :=
  ⟨{ options := { includeDir := ⟨['/']⟩ } }, .empty [],
    .process ⟨⟨"http://a/b.au3".toList⟩,
      "func f() -> x\nfunc g()\ny\n\nz\nendfunc\nw".toList⟩⟩

/-- The script is answered with once more when it is known. -/
theorem functions_placed_sample :
    Reachable [] ((initial []).serve placedCall).1 ∧
    (∀ e ∈ ((initial []).serve placedCall).1.scripts, e.2.WellPlaced) ∧
    ∃ s, (((initial []).serve placedCall).1.serve placedCall).2 = .ok (.script s) ∧
      s.functions.map (fun e => (e.1, e.2.span)) =
        [("F".toList, .line "http://a/b.au3".toList 1),
          ("G".toList, .lines "http://a/b.au3".toList 3 5),
          ("$GLOBAL".toList, .line "http://a/b.au3".toList 7)] ∧
      s.WellPlaced := by
  have hreach : Reachable [] ((initial []).serve placedCall).1 := .serve .initial placedCall
  rcases functions_placed [] _ hreach with ⟨hscripts, hserved⟩
  refine ⟨hreach, hscripts, ?_⟩
  exact exists_script (by decide +kernel) fun s hs => hserved placedCall s hs

end Catalog

end ScriptScan
