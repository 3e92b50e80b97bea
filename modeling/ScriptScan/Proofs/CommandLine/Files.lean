import Mathlib
import ScriptScan.CommandLine.Files
import ScriptScan.Proofs.FileSystem.Way
import ScriptScan.Proofs.Path.Legs
import ScriptScan.Proofs.Path.Order
import ScriptScan.Proofs.Text.Trim

/-!
# Which files the command line means

Which script files some paths stand for is told path by path, and the files are then put in order.
So neither the order of the paths nor that one of them is given twice makes a difference.

* `CommandLine.StandsFor` says which script files a path stands for: itself, or what its directory
  holds.
* `CommandLine.mem_filesAt_iff`, `CommandLine.exists_filesAt_iff` — what one path comes to.
* `CommandLine.dropRepeated_increasing`, `CommandLine.exists_same_dropRepeated` — what comes of a
  list in order.
* `CommandLine.scriptFiles_determined` is the conclusion for all paths.
-/

namespace ScriptScan

namespace CommandLine

variable {fs : FileSystem} {a dir p q : Path} {place : Place} {names : List Text}
  {args args' files : List Path}

/-! ## What a path stands for -/

/-- Whether a name is one of a script: something, a dot, and the extension in any letter case. -/
def IsScriptName (n : Text) : Prop :=
  ∃ before ext, before ≠ [] ∧ Text.sameIgnoringCase ext "au3".toList = true ∧
    n = before ++ '.' :: ext

/-- Whether a path stands for a script file. -/
inductive StandsFor (fs : FileSystem) : Path → Path → Prop where
  /-- A file is taken as it is. -/
  | itself {p : Path} (h : fs.isFile p = true) : StandsFor fs p p
  /-- A directory stands for the script files that it holds, at any depth. -/
  | within {dir : Path} {place : Place} {names : List Text} {n : Text} {content : FileContent}
      (hdir : fs.isDir dir = true) (hplace : fs.find? dir = some place)
      (hfile : fs.node? (place ++ names ++ [n]) = some (.file content)) (hname : IsScriptName n) :
      StandsFor fs dir (dir.joinAll ((names ++ [n]).map .name))

/-- Whether all directories in a directory can be opened by their paths, seen from it. -/
def Opens (fs : FileSystem) (dir : Path) : Prop :=
  ∀ place names, fs.find? dir = some place → names ≠ [] →
    fs.node? (place ++ names) = some .directory →
      FileSystem.isTooLong (dir.joinAll (names.map .name)) = false

/-! ## Names -/

/-- The extension holds no dot. -/
theorem not_mem_of_sameIgnoringCase {ext : Text}
    (h : Text.sameIgnoringCase ext "au3".toList = true) : '.' ∉ ext := by
  intro hmem
  have hlower : '.' ∈ ext.map Char.toLower := List.mem_map.2 ⟨'.', hmem, rfl⟩
  rw [eq_of_beq h] at hlower
  revert hlower
  decide

theorem isScriptPath_iff {n : Text} (h : p.components.getLast? = some (.name n)) :
    isScriptPath p = true ↔ IsScriptName n := by
  unfold isScriptPath Path.extension?
  rw [h]
  constructor
  · intro hscript
    cases hsplit : n.splitLast? '.' with
    | none => simp [hsplit] at hscript
    | some cut =>
      obtain ⟨before, ext⟩ := cut
      obtain ⟨hn, -⟩ := Text.splitLast?_eq_some_iff.1 hsplit
      by_cases hbefore : before = []
      · simp [hsplit, hbefore] at hscript
      · exact ⟨before, ext, hbefore, by simpa [hsplit, hbefore] using hscript, hn⟩
  · rintro ⟨before, ext, hbefore, hext, hn⟩
    have hsplit := Text.splitLast?_eq_some_iff.2 ⟨hn, not_mem_of_sameIgnoringCase hext⟩
    simpa [hsplit, hbefore] using hext

/-! ## What stands below a directory -/

theorem text_ne_nil_of_find? (h : fs.find? p = some place) : p.text ≠ [] := by
  intro hnil
  simp [FileSystem.find?, hnil] at h

theorem isDir_iff : fs.isDir p = true ↔
    FileSystem.isTooLong p = false ∧
      ∃ place, fs.find? p = some place ∧ fs.node? place = some .directory := by
  simp [FileSystem.isDir, FileSystem.get?, Option.bind_eq_some_iff]

theorem isFile_eq_false_of_isDir (h : fs.isDir p = true) : fs.isFile p = false := by
  have hdirectory : fs.get? p = some .directory := eq_of_beq h
  rw [FileSystem.isFile, FileSystem.file?, hdirectory]
  rfl

theorem mem_pathsBelow_iff (hplace : fs.find? dir = some place) {n : Node} :
    (p, n) ∈ pathsBelow fs dir ↔
      ∃ names, names ≠ [] ∧ fs.node? (place ++ names) = some n ∧
        p = dir.joinAll (names.map .name) := by
  simp only [pathsBelow, hplace, List.mem_map, Prod.exists, FileSystem.mem_below_iff,
    Prod.mk.injEq]
  constructor
  · rintro ⟨names, n', ⟨hne, hnode⟩, rfl, rfl⟩
    exact ⟨names, hne, hnode, rfl⟩
  · rintro ⟨names, hne, hnode, rfl⟩
    exact ⟨names, n, ⟨hne, hnode⟩, rfl, rfl⟩

/-- The walk through a directory comes to an end if all directories can be opened. -/
theorem exists_scriptsBelow_iff (hdir : fs.isDir dir = true) :
    (∃ files, scriptsBelow fs dir = .ok files) ↔ Opens fs dir := by
  obtain ⟨-, place, hplace, -⟩ := isDir_iff.1 hdir
  unfold scriptsBelow
  dsimp only
  constructor
  · rintro ⟨files, h⟩ place' names hplace' hne hnode
    split at h
    · cases h
    · rename_i hopens
      have hentry := List.find?_eq_none.1 hopens _
        ((mem_pathsBelow_iff hplace').2 ⟨names, hne, hnode, rfl⟩)
      simpa using hentry
  · intro h
    split
    · -- the first directory that cannot be opened would be one below
      rename_i p node hfound
      have hlong := List.find?_some hfound
      obtain ⟨names, hne, hnode, rfl⟩ :=
        (mem_pathsBelow_iff hplace).1 (List.mem_of_find?_eq_some hfound)
      obtain ⟨rfl, hlong⟩ : node = .directory ∧ FileSystem.isTooLong _ = true := by
        simpa using hlong
      rw [h place names hplace hne hnode] at hlong
      cases hlong
    · exact ⟨_, rfl⟩

/-- It finds the files whose paths are those of scripts. -/
theorem mem_scriptsBelow_iff (h : scriptsBelow fs dir = .ok files) :
    p ∈ files ↔ ∃ content, (p, .file content) ∈ pathsBelow fs dir ∧ isScriptPath p = true := by
  unfold scriptsBelow at h
  dsimp only at h
  split at h
  · cases h
  · cases h
    rw [List.mem_filterMap]
    constructor
    · rintro ⟨⟨q, node⟩, hmem, hq⟩
      cases node with
      | file content =>
        obtain ⟨hscript, hqp⟩ := Option.ite_none_right_eq_some.1 hq
        cases hqp
        exact ⟨content, hmem, hscript⟩
      | directory => cases hq
      | link target => cases hq
    · rintro ⟨content, hmem, hscript⟩
      exact ⟨(p, .file content), hmem, if_pos hscript⟩

/-- The last component of a path in a directory is the name of what stands there. -/
theorem getLast?_components_joinAll (hplace : fs.find? dir = some place) {n : Text} {node : Node}
    (hnode : fs.node? (place ++ names ++ [n]) = some node) :
    (dir.joinAll ((names ++ [n]).map .name)).components.getLast? = some (.name n) := by
  have hnames : ∀ m ∈ names ++ [n], isName m = true := by
    intro m hm
    rw [List.append_assoc] at hnode
    exact FileSystem.isName_of_mem hnode (List.mem_append_right place hm)
  rw [Path.components_joinAll (text_ne_nil_of_find? hplace) hnames]
  simp

/-- What a directory stands for is what the walk finds. -/
theorem standsFor_iff_of_isDir (hdir : fs.isDir dir = true) :
    StandsFor fs dir p ↔
      ∃ content, (p, .file content) ∈ pathsBelow fs dir ∧ isScriptPath p = true := by
  obtain ⟨-, place, hplace, -⟩ := isDir_iff.1 hdir
  constructor
  · rintro (hfile | ⟨-, hplace', hfile, hname⟩)
    · rw [isFile_eq_false_of_isDir hdir] at hfile
      cases hfile
    · cases hplace.symm.trans hplace'
      rw [← isScriptPath_iff (getLast?_components_joinAll hplace hfile)] at hname
      rw [List.append_assoc] at hfile
      exact ⟨_, (mem_pathsBelow_iff hplace).2 ⟨_, by simp, hfile, rfl⟩, hname⟩
  · rintro ⟨content, hmem, hscript⟩
    obtain ⟨names, hne, hfile, rfl⟩ := (mem_pathsBelow_iff hplace).1 hmem
    obtain ⟨names, n, rfl⟩ := (List.eq_nil_or_concat names).resolve_left hne
    rw [List.concat_eq_append, ← List.append_assoc] at hfile
    rw [List.concat_eq_append] at hscript ⊢
    exact .within hdir hplace hfile
      ((isScriptPath_iff (getLast?_components_joinAll hplace hfile)).1 hscript)

/-! ## What one path comes to -/

theorem mem_filesAt_iff (h : filesAt fs a = .ok files) : p ∈ files ↔ StandsFor fs a p := by
  unfold filesAt at h
  split at h
  · -- a file
    rename_i hfile
    cases h
    constructor
    · intro hp
      rw [List.mem_singleton.1 hp]
      exact .itself hfile
    · rintro (hfile | ⟨hdir, -, -, -⟩)
      · exact List.mem_singleton_self a
      · rw [isFile_eq_false_of_isDir hdir] at hfile
        cases hfile
  · split at h
    · rename_i hdir
      have hfound : scriptsBelow fs a = .ok files := by
        split at h
        · cases h
        · exact h
      rw [standsFor_iff_of_isDir hdir]
      exact mem_scriptsBelow_iff hfound
    · cases h

/-- A path comes to something if it means a file, or a directory that can be walked through and that
holds a script file. -/
theorem exists_filesAt_iff : (∃ files, filesAt fs a = .ok files) ↔
    fs.isFile a = true ∨ fs.isDir a = true ∧ Opens fs a ∧ ∃ p, StandsFor fs a p := by
  unfold filesAt
  by_cases hfile : fs.isFile a = true
  · simp [hfile]
  by_cases hdir : fs.isDir a = true
  · rw [if_neg hfile, if_pos hdir]
    constructor
    · rintro ⟨files, h⟩
      split at h
      · cases h
      · rename_i hnonempty
        refine .inr ⟨hdir, (exists_scriptsBelow_iff hdir).1 ⟨files, h⟩, ?_⟩
        cases files with
        | nil => exact absurd h hnonempty
        | cons p files =>
          have hp := (mem_scriptsBelow_iff h).1 List.mem_cons_self
          exact ⟨p, (standsFor_iff_of_isDir hdir).2 hp⟩
    · rintro (h | ⟨-, hopens, p, hp⟩)
      · exact absurd h hfile
      · obtain ⟨files, hfiles⟩ := (exists_scriptsBelow_iff hdir).2 hopens
        have hmem := (mem_scriptsBelow_iff hfiles).2 ((standsFor_iff_of_isDir hdir).1 hp)
        rw [hfiles]
        cases files with
        | nil => cases hmem
        | cons q files => exact ⟨_, rfl⟩
  · simp [hfile, hdir]

/-! ## What all paths come to -/

theorem exists_filesOfAll_iff :
    (∃ files, filesOfAll fs args = .ok files) ↔ ∀ a ∈ args, ∃ files, filesAt fs a = .ok files := by
  induction args with
  | nil => exact iff_of_true ⟨[], rfl⟩ nofun
  | cons a args ih =>
    rw [List.forall_mem_cons, ← ih, filesOfAll]
    constructor
    · rintro ⟨files, h⟩
      split at h
      · cases h
      · rename_i found hfound
        split at h
        · cases h
        · rename_i rest hrest
          exact ⟨⟨found, hfound⟩, rest, hrest⟩
    · rintro ⟨⟨found, hfound⟩, rest, hrest⟩
      rw [hfound, hrest]
      exact ⟨_, rfl⟩

theorem mem_filesOfAll_iff (h : filesOfAll fs args = .ok files) :
    p ∈ files ↔ ∃ a ∈ args, StandsFor fs a p := by
  induction args generalizing files with
  | nil =>
    cases h
    simp
  | cons a args ih =>
    rw [filesOfAll] at h
    split at h
    · cases h
    · rename_i found hfound
      split at h
      · cases h
      · rename_i rest hrest
        cases h
        rw [List.mem_append, mem_filesAt_iff hfound, ih hrest]
        simp

/-! ## Paths in order, without repetitions -/

theorem dropRepeated_subset (ps : List Path) : dropRepeated ps ⊆ ps := by
  fun_induction dropRepeated ps with
  | case1 => exact List.Subset.refl _
  | case2 => exact List.Subset.refl _
  | case3 p q rest _ ih =>
    exact fun r hr => List.mem_cons.2 ((List.mem_cons.1 (ih hr)).imp_right (List.mem_cons_of_mem q))
  | case4 p q rest _ ih => exact List.cons_subset_cons p ih

/-- What is dropped is the same as something that is kept. -/
theorem exists_same_dropRepeated {ps : List Path} (h : p ∈ ps) :
    ∃ q ∈ dropRepeated ps, q.same p = true := by
  fun_induction dropRepeated ps generalizing p with
  | case1 => cases h
  | case2 q =>
    rw [List.mem_singleton.1 h]
    exact ⟨q, List.mem_singleton_self q, Path.same_refl q⟩
  | case3 q r rest hsame ih =>
    rcases List.mem_cons.1 h with rfl | h
    · exact ih List.mem_cons_self
    rcases List.mem_cons.1 h with rfl | h
    · obtain ⟨s, hs, hsq⟩ := ih List.mem_cons_self
      exact ⟨s, hs, Path.same_trans hsq hsame⟩
    · exact ih (List.mem_cons_of_mem q h)
  | case4 q r rest _ ih =>
    rcases List.mem_cons.1 h with rfl | h
    · exact ⟨p, List.mem_cons_self, Path.same_refl p⟩
    · obtain ⟨s, hs, hsp⟩ := ih h
      exact ⟨s, List.mem_cons_of_mem q hs, hsp⟩

/-- If the paths are in order, all that are the same stand side by side, and one of them is kept. -/
theorem dropRepeated_increasing {ps : List Path}
    (h : ps.Pairwise fun p q => (compare p q).isLE = true) : Path.Increasing (dropRepeated ps) := by
  fun_induction dropRepeated ps with
  | case1 => exact .nil
  | case2 p => exact List.pairwise_singleton _ p
  | case3 p q rest _ ih => exact ih (h.sublist (by simp))
  | case4 p q rest hother ih =>
    obtain ⟨hp, hrest⟩ := List.pairwise_cons.1 h
    refine List.pairwise_cons.2 ⟨?_, ih hrest⟩
    intro r hr
    have hpq := Path.lt_of_isLE (hp q List.mem_cons_self) (Bool.eq_false_iff.2 hother)
    rcases List.mem_cons.1 (dropRepeated_subset _ hr) with rfl | hr
    · exact hpq
    · exact Std.TransCmp.lt_of_lt_of_isLE hpq ((List.pairwise_cons.1 hrest).1 r hr)

/-! ## The script files -/

/-- What the script files are that some paths stand for. -/
structure Collects (fs : FileSystem) (args files : List Path) : Prop where
  increasing : Path.Increasing files
  sound : ∀ p ∈ files, ∃ a ∈ args, StandsFor fs a p
  complete : ∀ a ∈ args, ∀ p, StandsFor fs a p → ∃ q ∈ files, q.same p = true

theorem collects_of_scriptFiles (h : scriptFiles fs args = .ok files) : Collects fs args files := by
  unfold scriptFiles at h
  split at h
  · cases h
  · rename_i found hfound
    cases h
    have hsorted : (found.mergeSort fun p q => (compare p q).isLE).Pairwise
        fun p q => (compare p q).isLE = true :=
      List.pairwise_mergeSort (fun _ _ _ => Std.TransCmp.isLE_trans) isLE_total found
    refine ⟨dropRepeated_increasing hsorted, ?_, ?_⟩
    · intro p hp
      have hmem := List.mem_mergeSort.1 (dropRepeated_subset _ hp)
      exact (mem_filesOfAll_iff hfound).1 hmem
    · intro a ha p hp
      have hmem := (mem_filesOfAll_iff hfound).2 ⟨a, ha, hp⟩
      exact exists_same_dropRepeated (List.mem_mergeSort.2 hmem)

theorem exists_scriptFiles_iff : (∃ files, scriptFiles fs args = .ok files) ↔
    ∀ a ∈ args, fs.isFile a = true ∨ fs.isDir a = true ∧ Opens fs a ∧ ∃ p, StandsFor fs a p := by
  simp only [← exists_filesAt_iff, ← exists_filesOfAll_iff]
  unfold scriptFiles
  constructor
  · rintro ⟨files, h⟩
    split at h
    · cases h
    · rename_i found hfound
      exact ⟨found, hfound⟩
  · rintro ⟨found, hfound⟩
    rw [hfound]
    exact ⟨_, rfl⟩

/-- Which files are meant depends only on which paths are given, not on their order. -/
theorem Collects.map_components_eq {files' : List Path} (h : Collects fs args files)
    (h' : Collects fs args' files') (hargs : ∀ a, a ∈ args ↔ a ∈ args') :
    files.map Path.components = files'.map Path.components := by
  have hsubset : ∀ {args args' files files' : List Path}, Collects fs args files →
      Collects fs args' files' → (∀ a ∈ args, a ∈ args') →
        files.map Path.components ⊆ files'.map Path.components := by
    intro args args' files files' h h' hargs cs hcs
    obtain ⟨p, hp, rfl⟩ := List.mem_map.1 hcs
    obtain ⟨a, ha, hap⟩ := h.sound p hp
    obtain ⟨q, hq, hsame⟩ := h'.complete a (hargs a ha) p hap
    exact List.mem_map.2 ⟨q, hq, Path.same_iff.1 hsame⟩
  refine h.increasing.map_components_eq h'.increasing fun cs => ⟨?_, ?_⟩
  · exact fun hcs => hsubset h h' (fun a => (hargs a).1) hcs
  · exact fun hcs => hsubset h' h (fun a => (hargs a).2) hcs

/-- Why a path stands for no script files. -/
inductive Refused (fs : FileSystem) (a : Path) : Prop where
  /-- It means neither a file nor a directory. -/
  | notFound (hfile : fs.isFile a = false) (hdir : fs.isDir a = false)
  /-- Its directory holds no script file. -/
  | noScripts (hdir : fs.isDir a = true) (h : ∀ p, ¬StandsFor fs a p)
  /-- The walk through its directory fails at another one. -/
  | notOpened (hdir : fs.isDir a = true) (h : ¬Opens fs a)

theorem refused_iff : Refused fs a ↔
    ¬(fs.isFile a = true ∨ fs.isDir a = true ∧ Opens fs a ∧ ∃ p, StandsFor fs a p) := by
  constructor
  · rintro (⟨hfile, hdir⟩ | ⟨hdir, hnone⟩ | ⟨hdir, hclosed⟩)
    · simp [hfile, hdir]
    · simp [isFile_eq_false_of_isDir hdir, hnone]
    · simp [isFile_eq_false_of_isDir hdir, hclosed]
  · intro h
    rw [not_or, Bool.not_eq_true] at h
    obtain ⟨hfile, hrest⟩ := h
    cases hdir : fs.isDir a with
    | false => exact .notFound hfile hdir
    | true =>
      by_cases hopens : Opens fs a
      · exact .noScripts hdir fun p hp => hrest ⟨hdir, hopens, p, hp⟩
      · exact .notOpened hdir hopens

/-- The script files depend only on which paths are given. They can be told unless one of the paths
is refused; they are then in strictly increasing order, and are what the paths stand for. -/
theorem scriptFiles_determined (hargs : ∀ a, a ∈ args ↔ a ∈ args') :
    ((∃ files, scriptFiles fs args = .ok files) ↔ ∃ files, scriptFiles fs args' = .ok files) ∧
      (∀ files, scriptFiles fs args = .ok files →
        Collects fs args files ∧ ∀ files', scriptFiles fs args' = .ok files' →
          files.map Path.components = files'.map Path.components) ∧
      ((∃ e, scriptFiles fs args = .error e) ↔ ∃ a ∈ args, Refused fs a) := by
  refine ⟨?_, ?_, ?_⟩
  · rw [exists_scriptFiles_iff, exists_scriptFiles_iff]
    exact forall_congr' fun a => imp_congr_left (hargs a)
  · intro files h
    have hfiles := collects_of_scriptFiles h
    exact ⟨hfiles, fun files' h' => hfiles.map_components_eq (collects_of_scriptFiles h') hargs⟩
  · have hfails : (∃ e, scriptFiles fs args = .error e) ↔
        ¬∃ files, scriptFiles fs args = .ok files := by
      cases scriptFiles fs args <;> simp
    rw [hfails, exists_scriptFiles_iff]
    simp only [refused_iff, not_forall, exists_prop]

/-- A directory with a script and a note. -/
def oneScript : FileSystem where
  nodes := [([['d']], .directory), ([['d'], "a.Au3".toList], .file (.bytes [])),
    ([['d'], "a.txt".toList], .file (.bytes []))]
  workDir := []
  isTree := ⟨by decide, by decide, by decide, by decide⟩

/-- The directory and its script, and the other way round with the directory once more. -/
theorem scriptFiles_determined_sample :
    scriptFiles oneScript [⟨"d/.".toList⟩, ⟨"d//a.Au3".toList⟩] = .ok [⟨"d/./a.Au3".toList⟩] ∧
      scriptFiles oneScript [⟨"d//a.Au3".toList⟩, ⟨"d/.".toList⟩, ⟨"d/.".toList⟩] =
        .ok [⟨"d//a.Au3".toList⟩] ∧
      [(⟨"d/./a.Au3".toList⟩ : Path)].map Path.components =
        [(⟨"d//a.Au3".toList⟩ : Path)].map Path.components := by
  have hargs : ∀ a, a ∈ [(⟨"d/.".toList⟩ : Path), ⟨"d//a.Au3".toList⟩] ↔
      a ∈ [(⟨"d//a.Au3".toList⟩ : Path), ⟨"d/.".toList⟩, ⟨"d/.".toList⟩] := by
    simp [or_comm]
  have hfiles : scriptFiles oneScript [⟨"d/.".toList⟩, ⟨"d//a.Au3".toList⟩] =
      .ok [⟨"d/./a.Au3".toList⟩] := by
    cbv
  have hfiles' : scriptFiles oneScript [⟨"d//a.Au3".toList⟩, ⟨"d/.".toList⟩, ⟨"d/.".toList⟩] =
      .ok [⟨"d//a.Au3".toList⟩] := by
    cbv
  have hsame := (scriptFiles_determined hargs).2.1 _ hfiles
  exact ⟨hfiles, hfiles', hsame.2 _ hfiles'⟩

end CommandLine

end ScriptScan
