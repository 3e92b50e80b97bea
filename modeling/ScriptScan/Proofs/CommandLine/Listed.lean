import Mathlib
import ScriptScan.CommandLine
import ScriptScan.Proofs.CommandLine.Files
import ScriptScan.Proofs.Report.Listed

/-!
# What the command lists

The files that the command is given are each scanned by themselves, unless they cannot be read: a
file can be opened by its path, unless that is too long, and then nothing else is found for it. So the
report lists the scripts of files, known by their canonical paths. But files are told apart by the
components of their paths, and two paths of one file can have different components; then its script is
listed twice. For a file that cannot be read, another one may be found in the include directory.

* `CommandLine.sourcePath_eq_self` — a file that can be read is scanned by itself.
* `CommandLine.lists_accepted_files` says what is listed, however many workers there are;
  `CommandLine.listed_twice` is a script that is listed twice.
-/

namespace ScriptScan

/-! ## Paths that are too long -/

namespace Text

variable {a b : Text}

theorem byteLength_append (a b : Text) : (a ++ b).byteLength = a.byteLength + b.byteLength := by
  have hfold : ∀ (t : Text) (n : Nat),
      t.foldl (fun n c => n + c.utf8Size) n = n + t.byteLength := by
    intro t
    induction t with
    | nil => exact fun n => rfl
    | cons c t ih =>
      intro n
      rw [byteLength, List.foldl_cons, List.foldl_cons, ih, ih]
      omega
  rw [byteLength, List.foldl_append, hfold]
  rfl

theorem byteLength_le_of_isInfix (h : a <:+: b) : a.byteLength ≤ b.byteLength := by
  obtain ⟨before, after, rfl⟩ := h
  simp only [byteLength_append]
  omega

end Text

theorem Path.isSuffix_text_join (dir p : Path) : p.text <:+ (dir.join p).text := by
  unfold join
  split
  · exact List.suffix_refl _
  · split
    · exact List.suffix_append _ _
    · exact (List.suffix_cons _ _).trans (List.suffix_append _ _)

namespace FileSystem

variable {fs : FileSystem} {p q : Path}

theorem isTooLong_of_isInfix (h : isTooLong p = true) (hpq : p.text <:+: q.text) :
    isTooLong q = true := by
  have hle := Text.byteLength_le_of_isInfix hpq
  simp only [isTooLong, decide_eq_true_eq] at h ⊢
  omega

theorem file?_of_isTooLong (h : isTooLong p = true) : fs.file? p = none := by
  rw [file?, get?, if_pos h]

/-- If a request is too long, so is every spelling of it, and nothing is found. -/
theorem source?_of_isTooLong {request : Text} (h : isTooLong p = true) (hpart : p.text <:+ request) :
    fs.source? request = none := by
  have hspelling : fs.spelling? request = none := by
    refine spelling?_eq_none_iff.2 fun ext _ => ?_
    have hinfix : p.text <:+: request ++ ext :=
      hpart.isInfix.trans (List.infix_append' [] request ext)
    exact isFile_eq_false_iff.2 (file?_of_isTooLong (isTooLong_of_isInfix h hinfix))
  rw [source?, answer, hspelling]
  rfl

/-- The path of a file that can be read is the first spelling that is tried. -/
theorem source?_of_file? {bytes : List UInt8} (h : fs.file? p = some (.bytes bytes)) :
    fs.source? p.text = some ⟨p, Utf8.decodeSource bytes⟩ := by
  have hspelling : fs.spelling? p.text = some (p, .bytes bytes) := by
    rw [spelling?, scriptExtensions, List.findSome?_cons, List.append_nil]
    dsimp only
    rw [h]
    rfl
  rw [source?, answer, hspelling]
  rfl

end FileSystem

/-- The file system is asked first, about the request itself. -/
theorem Setup.exists_lookups_eq_cons (setup : Setup) (request : Text) (relative : Bool) :
    ∃ rest, setup.lookups request relative = .file request :: rest := by
  have hcandidates : ∃ others,
      Resolution.candidates setup.options.includeDir request relative = request :: others := by
    unfold Resolution.candidates
    dsimp only
    split
    · exact ⟨[], rfl⟩
    · exact ⟨_, rfl⟩
  obtain ⟨others, hothers⟩ := hcandidates
  rw [Setup.lookups, hothers, List.flatMap_cons, Lookup.ofRequest, List.cons_append]
  exact ⟨_, rfl⟩

/-- Without resolvers of the host only the file system is asked, about requests that end in the one
given. -/
theorem Setup.exists_of_mem_lookups {setup : Setup} (hnone : setup.resolvers = []) {request : Text}
    {relative : Bool} {l : Lookup} (h : l ∈ setup.lookups request relative) :
    ∃ candidate, l = .file candidate ∧ request <:+ candidate := by
  obtain ⟨candidate, hcandidate, hl⟩ := List.mem_flatMap.1 h
  refine ⟨candidate, ?_, ?_⟩
  · rw [Lookup.ofRequest, hnone] at hl
    simpa [Lookup.hosts] using hl
  · unfold Resolution.candidates at hcandidate
    dsimp only at hcandidate
    split at hcandidate
    · obtain rfl := List.mem_singleton.1 hcandidate
      exact List.suffix_refl _
    · rcases List.mem_cons.1 hcandidate with rfl | hjoined
      · exact List.suffix_refl _
      · obtain rfl := List.mem_singleton.1 hjoined
        exact Path.isSuffix_text_join _ ⟨request⟩

namespace CommandLine

variable {fs : FileSystem} {setup : Setup} {a p : Path} {source : Source} {files : List Path}

/-! ## Files are scanned by themselves -/

theorem isFile_or_isTooLong (h : StandsFor fs a p) :
    fs.isFile p = true ∨ FileSystem.isTooLong p = true := by
  rcases h with hfile | ⟨-, hplace, hfile, -⟩
  · exact .inl hfile
  · rw [List.append_assoc] at hfile
    have hfind := FileSystem.find?_joinAll hplace ⟨_, hfile, nofun⟩ (by simp)
    rw [or_iff_not_imp_right]
    intro hshort
    rw [FileSystem.isFile, FileSystem.file?, FileSystem.get?, if_neg hshort, hfind,
      Option.bind_some, hfile]
    rfl

theorem sourceOf_eq_ok_iff : Report.sourceOf setup fs p = .ok source ↔
    (setup.lookups p.text false).findSome? (Lookup.answer? fs) = some source := by
  rw [Report.sourceOf, Catalog.resolve, Catalog.source?_resolution]
  split
  · rename_i s hs
    simp [hs]
  · rename_i hs
    simp [hs]

/-- A script file that can be read is scanned by itself, or not at all: it is what is looked for
first, and if its path is too long, so are all others that are looked for. -/
theorem sourcePath_eq_self (hnone : setup.resolvers = []) (h : StandsFor fs a p)
    (hread : ∀ reason, fs.file? p ≠ some (.unreadable reason)) :
    Report.sourcePath setup fs p = p := by
  unfold Report.sourcePath
  split
  · rename_i source hsource
    rw [sourceOf_eq_ok_iff] at hsource
    cases hfile : fs.file? p with
    | none =>
      have hlong := (isFile_or_isTooLong h).resolve_left (by simp [FileSystem.isFile, hfile])
      obtain ⟨l, hl, hanswer⟩ := List.exists_of_findSome?_eq_some hsource
      obtain ⟨candidate, rfl, hpart⟩ := Setup.exists_of_mem_lookups hnone hl
      rw [Lookup.answer?, FileSystem.source?_of_isTooLong hlong hpart] at hanswer
      cases hanswer
    | some content =>
      cases content with
      | bytes bytes =>
        -- the first look-up is for the file itself
        obtain ⟨rest, hrest⟩ := setup.exists_lookups_eq_cons p.text false
        rw [hrest, List.findSome?_cons, Lookup.answer?, FileSystem.source?_of_file? hfile] at hsource
        cases hsource
        rfl
      | unreadable reason => exact absurd hfile (hread reason)
  · rfl

/-- No two files have the same components, and each that can be read is scanned by itself. Each that
is accepted lists the script that is known by the canonical path of its source. So every script is
listed as often as accepted files have sources with its path, and none is listed twice exactly if
these are all different: without workers, and with any number of them, whatever turns they take. -/
theorem lists_accepted_files (command : Command) (h : scriptFiles fs command.paths = .ok files) :
    Path.Increasing files ∧
      (∀ p ∈ files, (∀ reason, fs.file? p ≠ some (.unreadable reason)) →
        Report.sourcePath command.setup fs p = p) ∧
      Report.Lists command.setup fs
        ((Catalog.initial []).scanEach command.setup fs (Report.sourceOf command.setup fs) files).1
        files (Report.scanFiles command.setup fs (.initial []) files) ∧
      ∀ workers turns,
        ((Pool.start (.initial []) workers files).run command.setup fs turns).isDone = true →
          Report.Lists command.setup fs
            ((Pool.start (.initial []) workers files).run command.setup fs turns).catalog files
            ((Pool.start (.initial []) workers files).run command.setup fs turns).outcomes := by
  have hcollects := collects_of_scriptFiles h
  have hanswered : ∀ order : List Path, Catalog.Answered fs (Report.sourceOf command.setup fs)
      ((Catalog.initial []).scanEach command.setup fs (Report.sourceOf command.setup fs) order).1
      ((Catalog.initial []).scanEach command.setup fs (Report.sourceOf command.setup fs) order).2 :=
    fun order => (Catalog.answered_initial []).scanEach order
  refine ⟨hcollects.increasing, ?_, ?_, ?_⟩
  · intro p hp hread
    obtain ⟨a, -, ha⟩ := hcollects.sound p hp
    exact sourcePath_eq_self rfl ha hread
  · rw [Report.scanFiles_eq_scanEach]
    exact Report.lists_of_answered (hanswered files) (Catalog.map_fst_scanEach _ files)
  · intro workers turns hdone
    obtain ⟨order, htrace⟩ :=
      (Pool.traces_start command.setup fs (.initial []) workers files).run turns
    have hfst := htrace.map_fst_outcomes hdone
    rw [flatten_chunksOf] at hfst
    have hpool := (hanswered order).perm htrace.outcomes_perm.symm
    rw [← htrace.catalog_eq] at hpool
    exact Report.lists_of_answered hpool hfst

/-- A file `/f`. -/
def oneFile : FileSystem where
  nodes := [([['f']], .file (.bytes []))]
  workDir := []
  isTree := ⟨by decide, by decide, by decide, by decide⟩

/-- The command that is given the file by two paths. -/
def twoPaths : Command := { paths := [⟨['f']⟩, ⟨"./f".toList⟩] }

/-- Both paths are files to scan, and one catalog knows their script. -/
theorem lists_accepted_files_sample :
    scriptFiles oneFile twoPaths.paths = .ok [⟨"./f".toList⟩, ⟨['f']⟩] ∧
      Report.Lists twoPaths.setup oneFile
        ((Catalog.initial []).scanEach twoPaths.setup oneFile
          (Report.sourceOf twoPaths.setup oneFile) [⟨"./f".toList⟩, ⟨['f']⟩]).1
        [⟨"./f".toList⟩, ⟨['f']⟩]
        (Report.scanFiles twoPaths.setup oneFile (.initial []) [⟨"./f".toList⟩, ⟨['f']⟩]) := by
  have hfiles : scriptFiles oneFile twoPaths.paths = .ok [⟨"./f".toList⟩, ⟨['f']⟩] := by cbv
  obtain ⟨-, -, hlists, -⟩ := lists_accepted_files twoPaths hfiles
  exact ⟨hfiles, hlists⟩

/-- A single dot at the beginning is a component of its own. So one file is scanned by two paths, and
its script is listed twice. -/
theorem listed_twice :
    scriptFiles oneFile twoPaths.paths = .ok [⟨"./f".toList⟩, ⟨['f']⟩] ∧
      oneFile.find? ⟨"./f".toList⟩ = oneFile.find? ⟨['f']⟩ ∧
      (Report.ofOutcomes (Report.scanFiles twoPaths.setup oneFile (.initial [])
        [⟨"./f".toList⟩, ⟨['f']⟩])).scripts.map (·.path) = ["/f".toList, "/f".toList] := by
  refine ⟨?_, ?_, ?_⟩ <;> cbv

end CommandLine

end ScriptScan
