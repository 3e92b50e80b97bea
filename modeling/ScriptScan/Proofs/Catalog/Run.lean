import ScriptScan.Catalog
import ScriptScan.Proofs.Outline.Functions
import ScriptScan.Proofs.Path

/-!
# Runs of a catalog

A host works with a catalog by one call after the other: it has a script found, found and scanned,
or scanned from a source at hand. Between two calls the file system may change, and the handlers,
resolvers and parameter grammar of the host may answer differently; so every call comes with those
that it meets.

`Catalog.serve_cases` says what a call can do to the catalog: nothing, or publish one script under
a canonical path that was not known before. `Catalog.run_induction` carries that over to runs.
-/

namespace ScriptScan

/-- What a host asks for. -/
inductive Request where
  /-- The source of a script that is requested at some place. -/
  | resolve (span : Span) (request : Text) (relative : Bool)
  /-- The script of such a source. -/
  | scan (span : Span) (request : Text) (relative : Bool)
  /-- The script of a source that is at hand. -/
  | process (source : Source)

/-- A request, and what it meets. -/
structure Call where
  setup : Setup
  fs : FileSystem
  request : Request

/-- The answer to a request that succeeds. -/
inductive Reply where
  | source (s : Source)
  | script (s : Script)

namespace Catalog

/-- Serves a call. -/
def serve (c : Catalog) (call : Call) : Catalog × Except Fault Reply :=
  match call.request with
  | .resolve span request relative =>
    (c, (resolve call.setup call.fs span request relative).map .source)
  | .scan span request relative =>
    let (c', r) := c.scan call.setup call.fs span request relative
    (c', r.map .script)
  | .process source =>
    let (c', r) := c.scanSource call.setup call.fs source
    (c', r.map .script)

/-- The catalog after some calls. -/
def run (c : Catalog) (calls : List Call) : Catalog :=
  calls.foldl (fun c call => (c.serve call).1) c

variable {c : Catalog} {setup : Setup} {fs : FileSystem} {source : Source}

/-! ## Finding a script -/

theorem find?_eq_none_iff {key : Path} :
    c.find? key = none ↔ ∀ e ∈ c.scripts, e.1.same key = false := by
  simp [find?]

/-! ## Reading a script -/

/-- A script that is read is made of a source that is read. -/
theorem exists_source_of_read {setup : Setup} {key : Path} {content : Text} {s : Script}
    (h : c.read setup key content = .ok s) :
    ∃ text, LogicalSource.read ⟨key.text, setup.options.strict⟩ content = .ok text ∧
      Script.ofSource (c.context setup) key text = .ok s := by
  unfold Catalog.read at h
  split at h
  · cases h
  · rename_i text htext
    exact ⟨text, htext, h⟩

/-- What a script holds that is read for a catalog, and that its keys were free. -/
theorem holds_of_read {setup : Setup} {key : Path} {content : Text} {s : Script}
    (h : c.read setup key content = .ok s) :
    ∃ decls main, s.Holds key decls main ∧
      ∀ f ∈ decls, FreeFor (c.functions.lookup ·) key f.name.key := by
  rcases exists_source_of_read h with ⟨text, -, hscript⟩
  exact Script.ofSource_holds hscript

/-- Reading gives the same script with another catalog, if its functions leave free what the script
declares. -/
theorem read_congr {d : Catalog} {setup : Setup} {key : Path} {content : Text} {s : Script}
    (h : c.read setup key content = .ok s)
    (hfree : ∀ g ∈ s.publicFuncs, FreeFor (d.functions.lookup ·) key g.key) :
    d.read setup key content = .ok s := by
  unfold Catalog.read at h ⊢
  split at h
  · cases h
  · exact Script.ofSource_congr h hfree

/-! ## One call -/

theorem exists_eq_ok_of_isOk {ε α : Type} {r : Except ε α} (h : r.isOk = true) :
    ∃ a, r = .ok a := by
  cases r with
  | error e => cases h
  | ok a => exact ⟨a, rfl⟩

theorem exists_eq_error_of_isOk {ε α : Type} {r : Except ε α} (h : r.isOk = false) :
    ∃ e, r = .error e := by
  cases r with
  | error e => exact ⟨e, rfl⟩
  | ok a => cases h

/-- A result that is a fault, of which something can be computed. -/
theorem exists_fault {α β : Type} {r : Except Fault α} {view : Fault → β} {b : β}
    (h : (r.map fun _ => ()).mapError view = .error b) : ∃ f, r = .error f ∧ view f = b := by
  cases r with
  | ok a => cases h
  | error f => exact ⟨f, rfl, Except.error.inj h⟩

theorem scanSource_of_known {s : Script} (h : c.find? (fs.canonical source.path) = some s) :
    c.scanSource setup fs source = (c, .ok s) := by
  simp [scanSource, h]

theorem scanSource_of_read {s : Script} (h : c.find? (fs.canonical source.path) = none)
    (hr : c.read setup (fs.canonical source.path) source.content = .ok s) :
    c.scanSource setup fs source = (c.publish fs (fs.canonical source.path) s, .ok s) := by
  simp [scanSource, h, hr]

theorem scanSource_of_fault {f : Fault} (h : c.find? (fs.canonical source.path) = none)
    (hr : c.read setup (fs.canonical source.path) source.content = .error f) :
    c.scanSource setup fs source = (c, .error f) := by
  simp [scanSource, h, hr]

/-- A source is accepted if its script is known, or can be read and is added. -/
theorem scanSource_eq_ok_iff {d : Catalog} {s : Script} :
    c.scanSource setup fs source = (d, .ok s) ↔
      (c.find? (fs.canonical source.path) = some s ∧ d = c) ∨
        (c.find? (fs.canonical source.path) = none ∧
          c.read setup (fs.canonical source.path) source.content = .ok s ∧
          d = c.publish fs (fs.canonical source.path) s) := by
  constructor
  · intro h
    cases hfind : c.find? (fs.canonical source.path) with
    | some s' =>
      rw [scanSource_of_known hfind] at h
      cases h
      exact .inl ⟨rfl, rfl⟩
    | none =>
      cases hread : c.read setup (fs.canonical source.path) source.content with
      | ok s' =>
        rw [scanSource_of_read hfind hread] at h
        cases h
        exact .inr ⟨rfl, rfl, rfl⟩
      | error f =>
        rw [scanSource_of_fault hfind hread] at h
        cases h
  · rintro (⟨hfind, rfl⟩ | ⟨hfind, hread, rfl⟩)
    · exact scanSource_of_known hfind
    · exact scanSource_of_read hfind hread

/-- A script that was not known has been read when a scan answers with it. -/
theorem read_of_scanSource {s : Script} (hnew : c.find? (fs.canonical source.path) = none)
    (hscan : (c.scanSource setup fs source).2 = .ok s) :
    c.read setup (fs.canonical source.path) source.content = .ok s := by
  rcases scanSource_eq_ok_iff.1 (Prod.ext rfl hscan) with ⟨hknown, -⟩ | ⟨-, hread, -⟩
  · rw [hnew] at hknown
    cases hknown
  · exact hread

/-- Scanning a source leaves the catalog as it is, or publishes one script under a path that was not
known. -/
theorem scanSource_cases (c : Catalog) (setup : Setup) (fs : FileSystem) (source : Source) :
    (c.scanSource setup fs source).1 = c ∨
      ∃ s, c.find? (fs.canonical source.path) = none ∧
        c.read setup (fs.canonical source.path) source.content = .ok s ∧
        (c.scanSource setup fs source).1 = c.publish fs (fs.canonical source.path) s := by
  cases hfind : c.find? (fs.canonical source.path) with
  | some s => exact .inl (by rw [scanSource_of_known hfind])
  | none =>
    cases hread : c.read setup (fs.canonical source.path) source.content with
    | error f => exact .inl (by rw [scanSource_of_fault hfind hread])
    | ok s => exact .inr ⟨s, rfl, rfl, by rw [scanSource_of_read hfind hread]⟩

/-- A call leaves the catalog as it is, or publishes one script under a path that was not known. -/
theorem serve_cases (c : Catalog) (call : Call) :
    (c.serve call).1 = c ∨
      ∃ key content s, c.find? key = none ∧ c.read call.setup key content = .ok s ∧
        (c.serve call).1 = c.publish call.fs key s := by
  have hsource : ∀ source, (c.scanSource call.setup call.fs source).1 = c ∨
      ∃ key content s, c.find? key = none ∧ c.read call.setup key content = .ok s ∧
        (c.scanSource call.setup call.fs source).1 = c.publish call.fs key s := by
    intro source
    rcases scanSource_cases c call.setup call.fs source with h | ⟨s, hfind, hread, h⟩
    · exact .inl h
    · exact .inr ⟨_, _, s, hfind, hread, h⟩
  rcases call with ⟨setup, fs, request⟩
  cases request with
  | resolve span request relative => exact .inl rfl
  | scan span request relative =>
    simp only [serve, scan]
    cases resolve setup fs span request relative with
    | error f => exact .inl rfl
    | ok source => exact hsource source
  | process source => exact hsource source

/-! ## Runs -/

/-- What holds at first and is kept by every publication holds after every run. -/
theorem run_induction {P : Catalog → Prop}
    (hpublish : ∀ {c : Catalog} {setup : Setup} {key : Path} {content : Text} {s : Script}
      (fs : FileSystem), P c → c.find? key = none → c.read setup key content = .ok s →
      P (c.publish fs key s))
    (h : P c) (calls : List Call) : P (c.run calls) := by
  induction calls generalizing c with
  | nil => exact h
  | cons call calls ih =>
    have hcall : P (c.serve call).1 := by
      rcases serve_cases c call with heq | ⟨key, content, s, hfind, hread, heq⟩
      · rw [heq]
        exact h
      · rw [heq]
        exact hpublish call.fs h hfind hread
    exact ih hcall

end Catalog

end ScriptScan
