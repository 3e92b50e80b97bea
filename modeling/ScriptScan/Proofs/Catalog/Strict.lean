import ScriptScan.Proofs.Catalog.Run
import ScriptScan.Proofs.Outline.Strict
import ScriptScan.Proofs.Source.Strict

/-!
# Catalogs in strict mode

Two catalogs that hold the same and are given the same sources, one of them in strict mode, go on
alike until strict mode refuses a source; and it refuses one for a one-line function or a label
only. So a host that is content with strict mode can leave it, and nothing changes.

* `scanSource_strict_cases` is the choice of two, for one source.
* `scanSources_lenient` carries it over any number of sources that strict mode accepts.
* `strict_restricts` puts together what this says of the two modes.
-/

namespace ScriptScan

/-- The setup in strict mode, or out of it. -/
def Setup.inMode (setup : Setup) (strict : Bool) : Setup :=
  { setup with options := { setup.options with strict } }

/-- Whether a fault is one that only strict mode finds. -/
def Fault.IsExperimental (f : Fault) : Prop :=
  f.cause = .oneLineFunc ∨ f.cause = .jumpLabel

namespace Catalog

/-! ## One source -/

/-- A text declares the same script in both modes, unless strict mode refuses it. -/
theorem read_strict_cases (c : Catalog) (setup : Setup) (key : Path) (content : Text) :
    c.read (setup.inMode true) key content = c.read (setup.inMode false) key content ∨
      ∃ f, c.read (setup.inMode true) key content = .error f ∧ f.IsExperimental := by
  have hmode : ∀ strict, (setup.inMode strict).options.strict = strict := fun _ => rfl
  have hcontext : ∀ strict, c.context (setup.inMode strict) = { c.context setup with strict } :=
    fun _ => rfl
  rw [Catalog.read, Catalog.read, hmode, hmode, hcontext, hcontext]
  rcases LogicalSource.read_strict_cases key.text content with heq | ⟨span, hrefused⟩
  · -- the lines are the same, so the outline decides
    rw [heq]
    cases LogicalSource.read ⟨key.text, false⟩ content with
    | error f => exact .inl rfl
    | ok source =>
      rcases Script.ofSource_strict_cases (c.context setup) key source with heq | ⟨span, hrefused⟩
      · exact .inl heq
      · exact .inr ⟨_, hrefused, .inr rfl⟩
  · right
    rw [hrefused]
    exact ⟨_, rfl, .inl rfl⟩

/-- A source is scanned alike in both modes, unless strict mode refuses it. -/
theorem scanSource_strict_cases (c : Catalog) (setup : Setup) (fs : FileSystem) (source : Source) :
    c.scanSource (setup.inMode true) fs source = c.scanSource (setup.inMode false) fs source ∨
      ∃ f, c.scanSource (setup.inMode true) fs source = (c, .error f) ∧ f.IsExperimental := by
  cases hfind : c.find? (fs.canonical source.path) with
  | some s =>
    left
    rw [scanSource_of_known hfind, scanSource_of_known hfind]
  | none =>
    rcases read_strict_cases c setup (fs.canonical source.path) source.content with
      heq | ⟨f, hrefused, hf⟩
    · left
      simp only [scanSource, hfind, heq]
    · right
      exact ⟨f, scanSource_of_fault hfind hrefused, hf⟩

/-- A script that is accepted in strict mode has no labels. -/
theorem unlabelled_of_read {c : Catalog} {setup : Setup} {key : Path} {content : Text} {s : Script}
    (h : c.read (setup.inMode true) key content = .ok s) : s.Unlabelled := by
  unfold Catalog.read at h
  split at h
  · cases h
  · exact Script.unlabelled_of_ofSource rfl h

/-! ## Any number of sources -/

/-- Scans some sources one after the other, each in the file system that it meets: the catalog
afterwards, and the answers. -/
def scanSources (c : Catalog) (setup : Setup) :
    List (FileSystem × Source) → Catalog × List (Except Fault Script)
  | [] => (c, [])
  | (fs, source) :: rest =>
    let (c', r) := c.scanSource setup fs source
    let (c'', rs) := c'.scanSources setup rest
    (c'', r :: rs)

variable {c : Catalog} {setup : Setup} {sources : List (FileSystem × Source)}

/-- Sources that strict mode accepts come to the same out of strict mode. -/
theorem scanSources_lenient
    (h : ∀ r ∈ (c.scanSources (setup.inMode true) sources).2, r.isOk = true) :
    c.scanSources (setup.inMode false) sources = c.scanSources (setup.inMode true) sources := by
  induction sources generalizing c with
  | nil => rfl
  | cons item rest ih =>
    obtain ⟨fs, source⟩ := item
    simp only [scanSources, List.forall_mem_cons] at h
    obtain ⟨hhead, htail⟩ := h
    rcases scanSource_strict_cases c setup fs source with heq | ⟨f, hrefused, -⟩
    · rw [heq] at htail
      simp only [scanSources, heq, ih htail]
    · rw [hrefused] at hhead
      cases hhead

/-- Every script that is added in strict mode is without labels. -/
theorem scanSources_unlabelled (h : ∀ e ∈ c.scripts, e.2.Unlabelled) :
    ∀ e ∈ (c.scanSources (setup.inMode true) sources).1.scripts, e.2.Unlabelled := by
  induction sources generalizing c with
  | nil => exact h
  | cons item rest ih =>
    obtain ⟨fs, source⟩ := item
    simp only [scanSources]
    refine ih ?_
    rcases scanSource_cases c (setup.inMode true) fs source with heq | ⟨s, -, hread, heq⟩
    · rw [heq]
      exact h
    · rw [heq]
      have hnew := unlabelled_of_read hread
      exact List.forall_mem_append.2 ⟨h, by simpa using hnew⟩

/-- Strict mode is a restriction. If it accepts all of some sources, then they come to the same
catalog and the same scripts out of strict mode, and none of the scripts has a label; and what it
refuses while the source would be accepted out of it is a one-line function or a label. -/
theorem strict_restricts {hostFuncs : List HostFunc}
    (haccepted : ∀ r ∈ ((initial hostFuncs).scanSources (setup.inMode true) sources).2,
      r.isOk = true) :
    (initial hostFuncs).scanSources (setup.inMode false) sources =
        (initial hostFuncs).scanSources (setup.inMode true) sources ∧
      (∀ e ∈ ((initial hostFuncs).scanSources (setup.inMode true) sources).1.scripts,
        e.2.Unlabelled) ∧
      ∀ (c : Catalog) (fs : FileSystem) (source : Source) (s : Script) (f : Fault),
        (c.scanSource (setup.inMode false) fs source).2 = .ok s →
        (c.scanSource (setup.inMode true) fs source).2 = .error f → f.IsExperimental := by
  have hnone : ∀ e ∈ (initial hostFuncs).scripts, e.2.Unlabelled := by simp [initial]
  refine ⟨scanSources_lenient haccepted, scanSources_unlabelled hnone, ?_⟩
  intro c fs source s f hlenient hstrict
  rcases scanSource_strict_cases c setup fs source with heq | ⟨f', hrefused, hexperimental⟩
  · -- the modes do not part, so one of them cannot refuse what the other accepts
    rw [heq, hlenient] at hstrict
    cases hstrict
  · rw [hrefused] at hstrict
    cases hstrict
    exact hexperimental

/-- A setup without handlers and resolvers. -/
def plainSetup : Setup :=
  { options := { includeDir := ⟨['/']⟩ } }

/-- A script with a function and a one-line if, and another one. -/
def twoSources : List (FileSystem × Source) :=
  [(.empty [], ⟨⟨"http://a/b.au3".toList⟩, "func f($x)\nif $x then g()\nendfunc".toList⟩),
    (.empty [], ⟨⟨"http://a/c.au3".toList⟩, "func g()\nendfunc".toList⟩)]

/-- Sources that strict mode accepts, and one that it refuses for a label. -/
theorem strict_restricts_sample :
    (∀ r ∈ ((initial []).scanSources (plainSetup.inMode true) twoSources).2, r.isOk = true) ∧
      (initial []).scanSources (plainSetup.inMode false) twoSources =
        (initial []).scanSources (plainSetup.inMode true) twoSources ∧
      ∃ f, ((initial []).scanSource (plainSetup.inMode true) (.empty [])
        ⟨⟨"http://a/d.au3".toList⟩, "here:".toList⟩).2 = .error f ∧ f.IsExperimental := by
  have haccepted : ∀ r ∈ ((initial []).scanSources (plainSetup.inMode true) twoSources).2,
      r.isOk = true := by
    rw [← List.all_eq_true]
    decide +kernel
  have hlenient : ∃ s, ((initial []).scanSource (plainSetup.inMode false) (.empty [])
      ⟨⟨"http://a/d.au3".toList⟩, "here:".toList⟩).2 = .ok s :=
    exists_eq_ok_of_isOk (by decide +kernel)
  have hstrict : ∃ f, ((initial []).scanSource (plainSetup.inMode true) (.empty [])
      ⟨⟨"http://a/d.au3".toList⟩, "here:".toList⟩).2 = .error f :=
    exists_eq_error_of_isOk (by decide +kernel)
  obtain ⟨hsame, -, hexperimental⟩ := strict_restricts haccepted
  obtain ⟨s, hs⟩ := hlenient
  obtain ⟨f, hf⟩ := hstrict
  exact ⟨haccepted, hsame, f, hf, hexperimental _ _ _ s f hs hf⟩

end Catalog

end ScriptScan
