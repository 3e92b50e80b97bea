import ScriptScan.Proofs.FileSystem.Way
import ScriptScan.Proofs.Path.Absolute

/-!
# Canonical paths

The canonical path of what exists holds no links, and is its own canonical path. What does not exist
is known by its absolute form, or as it is if the working directory is gone that it is seen from.
The absolute form drops the single dots of a path; and a dot at the end asks for a directory, which
the absolute form does not do. So a path may mean nothing while its absolute form means a file, which
may be known by another path. This is the only way in which a canonical path can be another one when
it is asked for again.

* `FileSystem.canonical_ofNames` — real paths are their own canonical paths.
* `FileSystem.realPath?_of_absolute?` — where the absolute form of a path leads, the path leads, too,
  unless it ends in a single dot.
* `FileSystem.Strays` says how a path can fail to be settled.
* `FileSystem.canonical_canonical_iff` — a canonical path is its own canonical path, unless the path
  strays.
-/

namespace ScriptScan

/-- Whether what follows the last slash of a path is a single dot. -/
def Path.endsInDot (p : Path) : Bool :=
  (Text.splitOn '/' p.text).getLast? = some ['.']

namespace FileSystem

variable {fs : FileSystem} {p q a : Path} {place : Place}

/-! ## The rules -/

theorem canonical_of_isAddress (h : p.isAddress = true) : fs.canonical p = p :=
  if_pos h

theorem canonical_of_realPath? (hp : p.isAddress = false) (h : fs.realPath? p = some q) :
    fs.canonical p = q := by
  rw [canonical, hp, h]
  rfl

theorem canonical_of_missing (hp : p.isAddress = false) (h : fs.realPath? p = none) :
    fs.canonical p = (fs.absolute? p).getD p := by
  rw [canonical, hp, h]
  rfl

theorem startOf_of_isAbsolute (h : p.isAbsolute = true) : fs.startOf p.text = [] :=
  if_pos (beq_iff_eq.1 h)

theorem absolute?_eq_some_iff : fs.absolute? p = some q ↔
    fs.node? (fs.startOf p.text) = some .directory ∧
      Path.absolute (Path.ofNames (fs.startOf p.text)) p = q := by
  simp [absolute?]

theorem absolute?_of_isAbsolute (h : p.isAbsolute = true) :
    fs.absolute? p = some (Path.absolute (Path.ofNames []) p) := by
  rw [absolute?_eq_some_iff, startOf_of_isAbsolute h]
  exact ⟨fs.node?_nil, rfl⟩

/-! ## Real paths -/

theorem realPath?_eq_some_iff :
    fs.realPath? p = some q ↔ p.text ≠ [] ∧ ∃ place,
      fs.Leads (!isTooLong ·) maxLinks (fs.startOf p.text) (Step.ofText p.text) place ∧
        q = Path.ofNames place := by
  unfold realPath?
  by_cases hp : p.text = []
  · simp [hp]
  · simp only [List.isEmpty_iff, hp, if_false, ne_eq, not_false_eq_true, true_and]
    simp only [← follow_eq_some_iff]
    split
    · rename_i there hfollow
      simp [hfollow, eq_comm]
    · rename_i hnone
      constructor
      · exact nofun
      · rintro ⟨place, hfollow, -⟩
        exact absurd hfollow (hnone place)

theorem isName_of_standsAt (h : fs.StandsAt place) : ∀ n ∈ place, isName n = true := by
  obtain ⟨node, hnode, -⟩ := h
  exact fun n hn => isName_of_mem hnode hn

theorem isLeg_of_standsAt (h : fs.StandsAt place) : ∀ n ∈ place, Text.IsLeg n :=
  fun n hn => Text.isLeg_of_isName (isName_of_standsAt h n hn)

/-- Names are not single dots. -/
theorem ne_dot_of_standsAt (h : fs.StandsAt place) : ∀ n ∈ place, n ≠ ['.'] := by
  rintro n hn rfl
  cases isName_of_standsAt h _ hn

/-- What exists is seen from a directory. -/
theorem directory_startOf_of_realPath? (h : fs.realPath? p = some q) :
    fs.node? (fs.startOf p.text) = some .directory := by
  obtain ⟨hp, _, hleads, -⟩ := realPath?_eq_some_iff.1 h
  exact hleads.directory_of_ne_nil (Step.ofText_ne_nil hp)

/-- A real path is the canonical path of what stands there. -/
theorem canonical_ofNames (h : fs.StandsAt place) :
    (fs.canonical (Path.ofNames place)).same (Path.ofNames place) = true := by
  have hlegs := isLeg_of_standsAt h
  have hspells := Path.spells_ofNames place
  have haddress := hspells.isAddress_eq hlegs
  cases hreal : fs.realPath? (Path.ofNames place) with
  | some q =>
    rw [canonical_of_realPath? haddress hreal]
    obtain ⟨-, there, hleads, rfl⟩ := realPath?_eq_some_iff.1 hreal
    have hsteps : place.map Step.ofLeg = place.map .into :=
      List.map_congr_left fun n hn => Step.ofLeg_of_isName (isName_of_standsAt h n hn)
    rw [startOf_of_isAbsolute hspells.isAbsolute, Step.ofText_eq, Path.legs_ofNames hlegs,
      hsteps] at hleads
    rw [(hleads.descend h).eq_of_stay]
    exact Path.same_refl _
  | none =>
    rw [canonical_of_missing haddress hreal, absolute?_of_isAbsolute hspells.isAbsolute]
    exact hspells.same_absolute (List.forall_mem_nil _) hlegs (ne_dot_of_standsAt h)

/-! ## Absolute forms -/

/-- Where the absolute form of a path leads, the path leads, too, unless it ends in a single dot. -/
theorem realPath?_of_absolute? (hp : p.text ≠ []) (hdot : p.endsInDot = false)
    (ha : fs.absolute? p = some a) (h : fs.realPath? a = some q) : fs.realPath? p = some q := by
  obtain ⟨hdir, rfl⟩ := absolute?_eq_some_iff.1 ha
  have hstart := standsAt_of_directory hdir
  have hspells := Path.spells_absolute (isLeg_of_standsAt hstart) hp
  obtain ⟨-, place, hleads, rfl⟩ := realPath?_eq_some_iff.1 h
  obtain ⟨front, last, hlast, hsteps, habsolute⟩ :=
    Path.exists_steps_absolute (isName_of_standsAt hstart) hp
      (by simpa [Path.endsInDot] using hdot)
  have hnames : (if p.isAbsolute then [] else fs.startOf p.text) = fs.startOf p.text := by
    split
    · rename_i habs
      exact (startOf_of_isAbsolute habs).symm
    · rfl
  rw [startOf_of_isAbsolute hspells.isAbsolute, habsolute, hnames] at hleads
  have hthere := hleads.descend hstart
  refine realPath?_eq_some_iff.2 ⟨hp, place, ?_, rfl⟩
  rw [hsteps]
  exact hthere.of_thins (Step.Thins.of_filter front hlast)

/-! ## Canonical paths of canonical paths -/

/-- Whether a path means nothing since it ends in a single dot, while its absolute form means
something that is known by another path. -/
structure Strays (fs : FileSystem) (p : Path) : Prop where
  isAddress_eq : p.isAddress = false
  endsInDot : p.endsInDot = true
  missing : fs.realPath? p = none
  known : ∃ a, fs.absolute? p = some a ∧ ∃ q, fs.realPath? a = some q ∧ q.same a = false

/-- What means nothing is known by its absolute form. That is its own canonical path, unless it
means something that is known by another path. -/
theorem canonical_absolute?_iff (hp : p.text ≠ []) (ha : fs.absolute? p = some a) :
    (fs.canonical a).same a = true ↔ ∀ q, fs.realPath? a = some q → q.same a = true := by
  obtain ⟨hdir, rfl⟩ := absolute?_eq_some_iff.1 ha
  have hstart := standsAt_of_directory hdir
  have hlegs := isLeg_of_standsAt hstart
  have hspells := Path.spells_absolute hlegs hp
  have hlegs' := Path.isLeg_of_mem_absoluteLegs (p := p) hlegs
  have haddress := hspells.isAddress_eq hlegs'
  cases hagain : fs.realPath? (Path.absolute (Path.ofNames (fs.startOf p.text)) p) with
  | none =>
    rw [canonical_of_missing haddress hagain, absolute?_of_isAbsolute hspells.isAbsolute]
    exact iff_of_true (hspells.same_absolute (List.forall_mem_nil _) hlegs'
      (Path.ne_dot_of_mem_absoluteLegs (ne_dot_of_standsAt hstart))) nofun
  | some q =>
    rw [canonical_of_realPath? haddress hagain]
    simp

/-- So the absolute form of a path that means nothing is its own canonical path, unless the path
strays. -/
theorem canonical_absolute?_iff_not_strays (haddress : p.isAddress = false)
    (hreal : fs.realPath? p = none) (hp : p.text ≠ []) (ha : fs.absolute? p = some a) :
    (fs.canonical a).same a = true ↔ ¬fs.Strays p := by
  rw [canonical_absolute?_iff hp ha]
  constructor
  · rintro hsame ⟨-, -, -, a', ha', q, hq, hother⟩
    cases ha.symm.trans ha'
    rw [hsame q hq] at hother
    cases hother
  · intro hsettled q hq
    rw [← Bool.not_eq_false]
    intro hother
    refine hsettled ⟨haddress, ?_, hreal, a, ha, q, hq, hother⟩
    -- the path leads nowhere and its absolute form does: so it ends in a dot
    rw [← Bool.not_eq_false]
    intro hdot
    rw [realPath?_of_absolute? hp hdot ha hq] at hreal
    cases hreal

theorem canonical_canonical_of_eq (h : fs.canonical p = p) :
    (fs.canonical (fs.canonical p)).same (fs.canonical p) = true := by
  rw [h, h]
  exact Path.same_refl p

/-- What is canonical is its own canonical path, unless it is that of a path that strays. -/
theorem canonical_canonical_iff (fs : FileSystem) (p : Path) :
    (fs.canonical (fs.canonical p)).same (fs.canonical p) = true ↔ ¬fs.Strays p := by
  cases haddress : p.isAddress with
  | true =>
    -- an address is kept as it is
    exact iff_of_true (canonical_canonical_of_eq (canonical_of_isAddress haddress))
      fun h => nomatch haddress.symm.trans h.isAddress_eq
  | false =>
    cases hreal : fs.realPath? p with
    | some q =>
      have hstart := standsAt_of_directory (directory_startOf_of_realPath? hreal)
      rw [canonical_of_realPath? haddress hreal]
      obtain ⟨-, place, hleads, rfl⟩ := realPath?_eq_some_iff.1 hreal
      exact iff_of_true (canonical_ofNames (hleads.standsAt hstart))
        fun h => nomatch hreal.symm.trans h.missing
    | none =>
      have hmissing := canonical_of_missing haddress hreal
      cases ha : fs.absolute? p with
      | none =>
        -- the working directory is gone, and the path is kept as it is
        rw [ha] at hmissing
        refine iff_of_true (canonical_canonical_of_eq hmissing) ?_
        rintro ⟨-, -, -, a, ha', -⟩
        cases ha.symm.trans ha'
      | some a =>
        rw [ha] at hmissing
        by_cases hp : p.text = []
        · -- the empty path stays empty
          obtain ⟨-, rfl⟩ := absolute?_eq_some_iff.1 ha
          have hself : fs.canonical p = p := by simp [hmissing, Path.absolute, hp]
          refine iff_of_true (canonical_canonical_of_eq hself) fun h => ?_
          have hdot := h.endsInDot
          rw [Path.endsInDot, hp] at hdot
          cases hdot
        · rw [hmissing, Option.getD_some]
          exact canonical_absolute?_iff_not_strays haddress hreal hp ha

end FileSystem

end ScriptScan
