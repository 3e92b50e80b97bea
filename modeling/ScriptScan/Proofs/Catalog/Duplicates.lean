import ScriptScan.Proofs.Catalog.Bodies
import ScriptScan.Proofs.Catalog.Faults
import ScriptScan.Proofs.Catalog.Reachable
import ScriptScan.Proofs.Report.Enumeration

/-!
# Names that are taken

A scan that finds the name of a function taken says where the earlier function is. There are two
ways to find it, among the ended functions of the same source and in the index, and they do not
answer alike: the first gives the line that declares the function, the second the span of its body.

* `Catalog.PriorPlaced` says which place is given, for every function that can have the name.
* `Catalog.duplicate_placed` is the conclusion for every scan of a catalog that a host can come to.
* `Catalog.duplicate_misplaced` is a scan whose fault gives the body of the earlier function.
-/

namespace ScriptScan

/-! ## How functions are written -/

/-- The functions of a script that is read from a source are written in the source. -/
theorem Catalog.writtenAs_of_read {c : Catalog} {setup : Setup} {key : Path} {content : Text}
    {s : Script} (h : c.read setup key content = .ok s) {f : FuncDecl}
    (hf : .declared f ∈ s.publicFuncs) : ∃ opening ls, f.WrittenAs opening ls := by
  rcases exists_source_of_read h with ⟨source, hsource, hscript⟩
  obtain ⟨lay, decls, main, -, -, hholds, hwritten, -⟩ := Script.ofSource_written hsource hscript
  rw [hholds.publicFuncs_eq] at hf
  obtain ⟨f', hf', heq⟩ := List.mem_map.1 hf
  cases heq
  obtain ⟨sec, -, hsec⟩ := FuncSection.exists_of_mem hwritten hf'
  exact ⟨sec.opening, sec.body, hsec⟩

namespace Catalog

/-! ## Scans that find a name taken -/

variable {hostFuncs : List HostFunc} {c : Catalog} {setup : Setup}
  {fs : FileSystem} {source : Source} {key : Path} {content : Text} {f : Fault}

/-- A name is found taken by a line that declares a function, behind lines that are read. -/
theorem taken_of_read (h : c.read setup key content = .error f)
    (hkey : f.key = "error.duplicate_function".toList) :
    ∃ text, LogicalSource.read ⟨key.text, setup.options.strict⟩ content = .ok text ∧
      (Outline.Raised (c.context setup) (.empty key) text.lines f ∨
        ∃ pre l post o hd prior, text.lines = pre ++ l :: post ∧
          Outline.run (c.context setup) (.empty key) pre = .ok o ∧
          LineRule.classify l.text = some (.func hd) ∧ o.open? = none ∧
          o.priorDeclaration? (c.context setup) hd.name.key = some prior ∧
          f = ⟨.duplicateFunc hd.name prior, l.span⟩) := by
  rcases read_eq_error_iff.1 h with hread | ⟨text, hread, hscript⟩
  · -- the lines can be read, because the faults of the reader have other keys
    rcases LogicalSource.cause_of_read hread with hcause | ⟨-, hcause⟩ <;>
      rw [Fault.key, hcause] at hkey <;> exact absurd (String.toList_inj.1 hkey) (by decide)
  · refine ⟨text, hread, ?_⟩
    rcases Script.ofSource_eq_error_iff.1 hscript with
      ⟨pre, l, post, o, hlines, hrun, hfails⟩ | ⟨o, g, -, -, rfl⟩
    · rcases hfails.taken_of_key hkey with hraises | ⟨hd, prior, hc, hopen, hprior, heq⟩
      · exact .inl ⟨pre, l, post, o, hlines, hrun, hraises⟩
      · exact .inr ⟨pre, l, post, o, hd, prior, hlines, hrun, hc, hopen, hprior, heq⟩
    · exact absurd (String.toList_inj.1 hkey) (by decide)

/-! ## The place that is given -/

/-- Which place `prior` is given for a name that is taken behind the lines `pre`. Of a function of
the same source it is the line that declares it. Of a function of a known script it is the span of
the body, which is written like the line of the declaration only if all of the body stands on that
line. A function of the host has no place. -/
structure PriorPlaced (hostFuncs : List HostFunc) (c : Catalog) (pre : List LogicalLine)
    (name : Text) (prior : Span) : Prop where
  in_source : ∀ l ∈ pre, ∀ hd, LineRule.classify l.text = some (.func hd) →
    hd.name.key = name.key → prior = l.span
  in_script : ∀ e ∈ c.scripts, ∀ g, .declared g ∈ e.2.publicFuncs → g.name.key = name.key →
    prior = g.span ∧
      (prior.display = g.declaredAt.display ↔ ∀ l ∈ g.body, l.span = g.declaredAt)
  somewhere : (∃ l ∈ pre, ∃ hd, LineRule.classify l.text = some (.func hd) ∧
      hd.name.key = name.key) ∨
    (∃ e ∈ c.scripts, ∃ g, .declared g ∈ e.2.publicFuncs ∧ g.name.key = name.key) ∨
    (prior = .unknown ∧ ∃ h ∈ hostFuncs, h.name.key = name.key)

/-- The index knows the functions of the known scripts, and none of them belongs to a script that is
not known yet. -/
theorem Consistent.known_of_mem (h : Consistent hostFuncs c) (hnew : c.find? key = none)
    {e : Path × Script} (he : e ∈ c.scripts) {g : FuncDecl}
    (hg : .declared g ∈ e.2.publicFuncs) :
    c.functions.lookup g.name.key = some (.declared g) ∧ g.script.same key = false := by
  constructor
  · exact h.proper.lookup_eq_some_iff.2 ⟨h.mem_funcs.2 (.inr ⟨e, he, hg⟩), rfl⟩
  · obtain ⟨g', heq, hscript⟩ := h.declared_of_mem he hg
    cases heq
    rw [hscript]
    exact find?_eq_none_iff.1 hnew e he

theorem priorPlaced_of_run (h : Consistent hostFuncs c) (hread : ∀ e ∈ c.scripts, e.2.IsRead)
    (hnew : c.find? key = none) {pre : List LogicalLine} {o : Outline}
    (hrun : Outline.run (c.context setup) (.empty key) pre = .ok o) (hopen : o.open? = none)
    {name : Text} {prior : Span}
    (hprior : o.priorDeclaration? (c.context setup) name.key = some prior) :
    PriorPlaced hostFuncs c pre name prior := by
  have hdeclares := Outline.declares_of_run hrun
  have hlaid := Outline.laidOut_of_run hrun
  constructor
  case in_source =>
    intro l hl hd hc hname
    obtain ⟨e, he, hename, hespan⟩ := (hlaid.declares_iff hopen).2 ⟨l, hl, hd, hc, rfl, rfl⟩
    rw [← hname, ← hename, ← hdeclares.keyed e he] at hprior
    rw [hdeclares.prior_of_closed he hprior, hespan]
  case in_script =>
    intro e he g hg hname
    obtain ⟨hknown, hother⟩ := h.known_of_mem hnew he hg
    rw [← hname] at hprior
    have hspan : prior = g.span := by
      refine hdeclares.prior_of_known hknown ?_ hprior
      rintro g' heq
      cases heq
      exact hother
    obtain ⟨c', setup', path, text, htext⟩ := hread e he
    obtain ⟨opening, ls, hwritten⟩ := writtenAs_of_read htext hg
    refine ⟨hspan, ?_⟩
    rw [hspan]
    exact hwritten.display_span_iff
  case somewhere =>
    rcases Outline.priorDeclaration?_eq_some hprior with ⟨g, hg, -⟩ | ⟨-, g, hg, hspan⟩
    · left
      have hmem := (FuncTable.lookup_eq_some_iff_mem hdeclares.closed_nodup).1 hg
      have hkey : name.key = g.name.key := hdeclares.keyed _ hmem
      obtain ⟨l, hl, hd, hc, hname, -⟩ := (hlaid.declares_iff hopen).1 ⟨_, hmem, rfl, rfl⟩
      exact ⟨l, hl, hd, hc, by rw [hname, hkey]⟩
    · right
      obtain ⟨hmem, hkey⟩ := h.proper.lookup_eq_some_iff.1 hg
      rcases h.mem_funcs.1 hmem with ⟨hf, hfirst, rfl⟩ | ⟨e, he, hpublic⟩
      · exact .inr ⟨hspan, hf, List.mem_of_find?_eq_some hfirst, hkey⟩
      · obtain ⟨g', rfl, -⟩ := h.declared_of_mem he hpublic
        exact .inl ⟨e, he, g', hpublic, hkey⟩

/-- Where a function is does not depend on the states of scripts. -/
theorem PriorPlaced.of_unloaded {pre : List LogicalLine} {name : Text} {prior : Span}
    (h : PriorPlaced hostFuncs c.unloaded pre name prior) :
    PriorPlaced hostFuncs c pre name prior := by
  refine ⟨h.in_source, ?_, ?_⟩
  · intro e he
    exact h.in_script (e.1, e.2.unloaded) (List.mem_map_of_mem he)
  · rcases h.somewhere with hsource | ⟨e, he, g, hg, hname⟩ | hhost
    · exact .inl hsource
    · obtain ⟨e', he', rfl⟩ := List.mem_map.1 he
      exact .inr (.inl ⟨e', he', g, hg, hname⟩)
    · exact .inr (.inr hhost)

/-- In every catalog that a host can come to, a scan that fails because the name of a function is
taken says so at the line of the later declaration, and its second argument is the place of the
earlier function; unless the handler of a pragma has raised the fault. -/
theorem duplicate_placed (hreach : Reachable hostFuncs c)
    (h : (c.scanSource setup fs source).2 = .error f)
    (hkey : f.key = "error.duplicate_function".toList) :
    ∃ text, LogicalSource.read ⟨(fs.canonical source.path).text, setup.options.strict⟩
        source.content = .ok text ∧
      (Outline.Raised (c.context setup) (.empty (fs.canonical source.path)) text.lines f ∨
        ∃ pre l post hd prior, text.lines = pre ++ l :: post ∧
          LineRule.classify l.text = some (.func hd) ∧ f.span = l.span ∧
          f.args = [hd.name, prior.display] ∧ PriorPlaced hostFuncs c pre hd.name prior) := by
  have hconsistent : Consistent hostFuncs c.unloaded := hreach.of_run (consistent_run hostFuncs)
  have hisRead : ∀ e ∈ c.unloaded.scripts, e.2.IsRead :=
    hreach.of_run (P := fun d => ∀ e ∈ d.scripts, e.2.IsRead) (isRead_run hostFuncs)
  obtain ⟨hnew, hread⟩ := scanSource_eq_error_iff.1 h
  have hnew' : c.unloaded.find? (fs.canonical source.path) = none := by
    rw [find?_unloaded, hnew]
    rfl
  obtain ⟨text, htext, hfault⟩ := taken_of_read hread hkey
  rcases hfault with
    hraised | ⟨pre, l, post, o, hd, prior, hlines, hrun, hc, hopen, hprior, rfl⟩
  · exact ⟨text, htext, .inl hraised⟩
  · have hplaced : PriorPlaced hostFuncs c.unloaded pre hd.name prior :=
      priorPlaced_of_run hconsistent hisRead hnew' hrun hopen hprior
    exact ⟨text, htext, .inr ⟨pre, l, post, hd, prior, hlines, hc, rfl, rfl, hplaced.of_unloaded⟩⟩

/-- A script with a function whose body stands below the line of its declaration. -/
def earlierScript : Call :=
  ⟨{ options := { includeDir := ⟨['/']⟩ } }, .empty [],
    .process ⟨⟨"http://a/a.au3".toList⟩, "func f()\nx\nendfunc".toList⟩⟩

/-- A source that declares the name again, behind a function of its own. -/
theorem duplicate_placed_sample :
    Reachable [] ((initial []).run [earlierScript]) ∧
    ∃ f text, (((initial []).run [earlierScript]).scanSource earlierScript.setup (.empty [])
        ⟨⟨"http://a/b.au3".toList⟩, "func g()\nendfunc\nfunc F()\nendfunc".toList⟩).2 = .error f ∧
      f.key = "error.duplicate_function".toList ∧
      LogicalSource.read ⟨"http://a/b.au3".toList, false⟩
        "func g()\nendfunc\nfunc F()\nendfunc".toList = .ok text ∧
      (Outline.Raised (((initial []).run [earlierScript]).context earlierScript.setup)
          (.empty ⟨"http://a/b.au3".toList⟩) text.lines f ∨
        ∃ pre l post hd prior, text.lines = pre ++ l :: post ∧
          LineRule.classify l.text = some (.func hd) ∧ f.span = l.span ∧
          f.args = [hd.name, prior.display] ∧
          PriorPlaced [] ((initial []).run [earlierScript]) pre hd.name prior) := by
  have hkey : (FileSystem.empty []).canonical ⟨"http://a/b.au3".toList⟩ =
      ⟨"http://a/b.au3".toList⟩ := by
    decide +kernel
  have hscan : ∃ f, (((initial []).run [earlierScript]).scanSource earlierScript.setup (.empty [])
      ⟨⟨"http://a/b.au3".toList⟩, "func g()\nendfunc\nfunc F()\nendfunc".toList⟩).2 = .error f ∧
      f.key = "error.duplicate_function".toList :=
    exists_fault (by decide +kernel)
  obtain ⟨f, hf, hdup⟩ := hscan
  have hreach : Reachable [] ((initial []).run [earlierScript]) := .serve .initial earlierScript
  obtain ⟨text, htext, hplaced⟩ := duplicate_placed hreach hf hdup
  rw [hkey] at htext hplaced
  exact ⟨hreach, f, text, hf, hdup, htext, hplaced⟩

/-- The earlier function is declared on the first line, and the fault gives the second line, where
its body stands. -/
theorem duplicate_misplaced :
    ((((initial []).run [earlierScript]).func? "f".toList).bind Func.decl?).map
        (·.declaredAt.display) = some "http://a/a.au3:1".toList ∧
      ∃ f, (((initial []).run [earlierScript]).scanSource earlierScript.setup (.empty [])
          ⟨⟨"http://a/b.au3".toList⟩, "func f()\nendfunc".toList⟩).2 = .error f ∧
        (f.key, f.args) = ("error.duplicate_function".toList,
          ["f".toList, "http://a/a.au3:2".toList]) :=
  ⟨by decide +kernel, exists_fault (by decide +kernel)⟩

end Catalog

end ScriptScan
