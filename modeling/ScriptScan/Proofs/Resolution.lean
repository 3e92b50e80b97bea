import Mathlib
import ScriptScan.Catalog
import ScriptScan.Proofs.Path

/-!
# The order of resolution

A request is resolved by look-ups: the file system is asked, and then, except in strict mode, the
resolvers of the host, first about the request and then about the request as it is seen from the
include directory. The look-ups are made one after the other, up to the first one that is answered.
So whoever fails to answer might as well not be there, and the network, which never answers, makes
no look-up. The file system fails to answer if the first spelling of the request that is a file
cannot be read, even if another one could be.

* `FileSystem.Answers` says what the file system is to answer, and `FileSystem.answer_eq_iff` that it
  does.
* `Lookup.FirstOf` says what is found by look-ups, and which of them are made.
* `Resolution.source?_ofQuestions` and `Resolution.hostCalls_ofQuestions` — a resolution finds and asks
  what its look-ups do.
* `Lookup.Mirrors` says that some look-ups are others with some among them that are never answered.
* `Catalog.resolve_takes_first` is the conclusion for every request.
-/

namespace ScriptScan

/-! ## The answers of the file system -/

namespace FileSystem

/-- Whether a path is the first spelling of a request that is a file, with what reading it comes
to. -/
inductive FirstSpelling (fs : FileSystem) (request : Text) : Path → FileContent → Prop where
  | intro {before after : List Text} {ext : Text} {content : FileContent}
      (hexts : scriptExtensions = before ++ ext :: after)
      (hbefore : ∀ e ∈ before, fs.isFile ⟨request ++ e⟩ = false)
      (hfile : fs.file? ⟨request ++ ext⟩ = some content) :
      FirstSpelling fs request ⟨request ++ ext⟩ content

/-- What the file system is to answer to a request: the text of the file that it means, or that
this cannot be read, or nothing if no spelling of it is a file. -/
inductive Answers (fs : FileSystem) (request : Text) : Answer → Prop where
  | found {path : Path} {bytes : List UInt8} (h : fs.FirstSpelling request path (.bytes bytes)) :
      Answers fs request (.found ⟨path, Utf8.decodeSource bytes⟩)
  | failed {path : Path} {reason : Text} (h : fs.FirstSpelling request path (.unreadable reason)) :
      Answers fs request (.failed (unreadableMessage path reason))
  | notHandled (h : ∀ ext ∈ scriptExtensions, fs.isFile ⟨request ++ ext⟩ = false) :
      Answers fs request .notHandled

variable {fs : FileSystem} {request : Text} {path : Path} {content : FileContent}

theorem isFile_eq_false_iff : fs.isFile path = false ↔ fs.file? path = none := by
  rw [isFile, Option.isSome_eq_false_iff, Option.isNone_iff_eq_none]

theorem spelling?_eq_none_iff : fs.spelling? request = none ↔
    ∀ ext ∈ scriptExtensions, fs.isFile ⟨request ++ ext⟩ = false := by
  simp only [spelling?, List.findSome?_eq_none_iff, Option.map_eq_none_iff, isFile_eq_false_iff]

theorem spelling?_eq_some_iff : fs.spelling? request = some (path, content) ↔
    fs.FirstSpelling request path content := by
  unfold spelling?
  constructor
  · intro h
    obtain ⟨before, ext, after, hexts, hext, hbefore⟩ := List.findSome?_eq_some_iff.1 h
    obtain ⟨content', hfile, heq⟩ := Option.map_eq_some_iff.1 hext
    cases heq
    refine .intro hexts ?_ hfile
    intro e he
    exact isFile_eq_false_iff.2 (Option.map_eq_none_iff.1 (hbefore e he))
  · rintro ⟨hexts, hbefore, hfile⟩
    refine List.findSome?_eq_some_iff.2 ⟨_, _, _, hexts, ?_, ?_⟩
    · exact Option.map_eq_some_iff.2 ⟨content, hfile, rfl⟩
    · intro e he
      exact Option.map_eq_none_iff.2 (isFile_eq_false_iff.1 (hbefore e he))

/-- The file system gives the answer that it is to give, and no other one. -/
theorem answer_eq_iff {a : Answer} : fs.answer request = a ↔ fs.Answers request a := by
  constructor
  · rintro rfl
    unfold answer
    split
    · rename_i hnone
      exact .notHandled (spelling?_eq_none_iff.1 hnone)
    · rename_i hspelling
      exact .found (spelling?_eq_some_iff.1 hspelling)
    · rename_i hspelling
      exact .failed (spelling?_eq_some_iff.1 hspelling)
  · intro h
    cases h with
    | found h => rw [answer, spelling?_eq_some_iff.2 h]
    | failed h => rw [answer, spelling?_eq_some_iff.2 h]
    | notHandled h => rw [answer, spelling?_eq_none_iff.2 h]

/-- In a file system that holds nothing, only the root is there, and it is no file. -/
theorem file?_empty (workDir : Place) (p : Path) : (empty workDir).file? p = none := by
  have hroot : ∀ content, (empty workDir).get? p ≠ some (.file content) := by
    intro content hget
    unfold get? at hget
    split at hget
    · cases hget
    · obtain ⟨place, -, hnode⟩ := Option.bind_eq_some_iff.1 hget
      unfold node? nodeIn at hnode
      split at hnode <;> cases hnode
  unfold file?
  split
  · rename_i content hget
    exact absurd hget (hroot content)
  · rfl

theorem answer_empty (workDir : Place) (request : Text) :
    (empty workDir).answer request = .notHandled := by
  have hspelling : (empty workDir).spelling? request = none :=
    spelling?_eq_none_iff.2 fun ext _ => isFile_eq_false_iff.2 (file?_empty workDir _)
  rw [answer, hspelling]

end FileSystem

/-! ## Look-ups -/

/-- One way to find a script: to ask the file system, or a resolver of the host, about a request. -/
inductive Lookup where
  | file (request : Text)
  | host (index : Nat) (resolver : Resolver) (request : Text)

namespace Lookup

/-- The source that a look-up brings, if it is answered. -/
def answer? (fs : FileSystem) : Lookup → Option Source
  | file request => fs.source? request
  | host _ resolver request => (resolver request).source?

/-- The call of a resolver of the host, if the look-up is one. -/
def call? : Lookup → Option (Nat × Text)
  | file _ => none
  | host index _ request => some (index, request)

/-- The look-ups for a request at some resolvers of the host, of which the first has the index `n`. -/
def hosts (n : Nat) (resolvers : List Resolver) (request : Text) : List Lookup :=
  (resolvers.zipIdx n).map fun (r, i) => host i r request

/-- All look-ups for a request. -/
def ofRequest (strict : Bool) (resolvers : List Resolver) (request : Text) : List Lookup :=
  file request :: if strict then [] else hosts 0 resolvers request

/-- The look-ups that are made: those up to the first one that is answered. -/
def made (fs : FileSystem) : List Lookup → List Lookup
  | [] => []
  | q :: qs =>
    match q.answer? fs with
    | some _ => [q]
    | none => q :: made fs qs

/-- Whether look-ups that are made one after the other find `found?`, if the last one of them is the
first one that is answered. -/
inductive FirstOf (fs : FileSystem) : List Lookup → Option Source → List Lookup → Prop where
  | answered {before after : List Lookup} {q : Lookup} {s : Source}
      (hbefore : ∀ p ∈ before, p.answer? fs = none) (hq : q.answer? fs = some s) :
      FirstOf fs (before ++ q :: after) (some s) (before ++ [q])
  | missed {ls : List Lookup} (h : ∀ p ∈ ls, p.answer? fs = none) : FirstOf fs ls none ls

variable {fs : FileSystem} {ls ls' : List Lookup} {s : Source}

theorem made_append_of_none (h : ∀ p ∈ ls, p.answer? fs = none) (ls' : List Lookup) :
    made fs (ls ++ ls') = ls ++ made fs ls' := by
  induction ls with
  | nil => rfl
  | cons q ls ih =>
    rcases List.forall_mem_cons.1 h with ⟨hq, hrest⟩
    simp only [List.cons_append, made, hq, ih hrest]

theorem made_append_of_some (h : ls.findSome? (answer? fs) = some s) (ls' : List Lookup) :
    made fs (ls ++ ls') = made fs ls := by
  induction ls with
  | nil => cases h
  | cons q ls ih =>
    cases hq : q.answer? fs with
    | some s' => simp only [List.cons_append, made, hq]
    | none =>
      rw [List.findSome?_cons, hq] at h
      simp only [List.cons_append, made, hq, ih h]

theorem made_of_none (h : ∀ p ∈ ls, p.answer? fs = none) : made fs ls = ls := by
  have happend := made_append_of_none h []
  rwa [List.append_nil, made, List.append_nil] at happend

theorem made_sublist (fs : FileSystem) (ls : List Lookup) : (made fs ls).Sublist ls := by
  induction ls with
  | nil => exact .slnil
  | cons q ls ih =>
    rw [made]
    split
    · exact (List.nil_sublist ls).cons_cons q
    · exact ih.cons_cons q

theorem firstOf (fs : FileSystem) (ls : List Lookup) :
    FirstOf fs ls (ls.findSome? (answer? fs)) (made fs ls) := by
  cases h : ls.findSome? (answer? fs) with
  | none =>
    have hnone := List.findSome?_eq_none_iff.1 h
    rw [made_of_none hnone]
    exact .missed hnone
  | some s =>
    rcases List.findSome?_eq_some_iff.1 h with ⟨before, q, after, rfl, hq, hbefore⟩
    have hmade : made fs (before ++ q :: after) = before ++ [q] := by
      rw [made_append_of_none hbefore, made, hq]
    rw [hmade]
    exact .answered hbefore hq

theorem map_calls_hosts (n : Nat) (resolvers : List Resolver) (request : Text) :
    ((hosts n resolvers request).filterMap call?).map (·.1) = List.range' n resolvers.length := by
  induction resolvers generalizing n with
  | nil => rfl
  | cons r rs ih => exact congrArg (n :: ·) (ih (n + 1))

/-- About one request each resolver is asked once. -/
theorem count_ofRequest_le (strict : Bool) (resolvers : List Resolver) (request : Text) (i : Nat) :
    (((ofRequest strict resolvers request).filterMap call?).map (·.1)).count i ≤ 1 := by
  rw [ofRequest, List.filterMap_cons_none rfl]
  cases strict with
  | true => exact Nat.zero_le 1
  | false =>
    show (((hosts 0 resolvers request).filterMap call?).map (·.1)).count i ≤ 1
    rw [map_calls_hosts]
    exact List.nodup_iff_count_le_one.1 List.nodup_range' i

end Lookup

/-! ## Questions -/

namespace Question

/-- The look-ups that a question stands for. The network never answers. -/
def lookups (q : Question) : List Lookup :=
  match q.strategy with
  | .fileSystem => [.file q.request]
  | .remote _ => []
  | .host index resolver => [.host index resolver q.request]

theorem source?_ask (fs : FileSystem) (q : Question) :
    (q.strategy.ask fs q.request).source? = q.lookups.findSome? (Lookup.answer? fs) := by
  rcases q with ⟨request, strategy⟩
  cases strategy with
  | fileSystem =>
    rw [lookups, List.findSome?_singleton]
    rfl
  | remote protocol =>
    rw [lookups, Strategy.ask]
    cases protocol.refusal? request <;> rfl
  | host index resolver =>
    rw [lookups, List.findSome?_singleton]
    rfl

/-- The call of a resolver of the host, if that is what is asked. -/
def call? (q : Question) : Option (Nat × Text) :=
  match q.strategy with
  | .host index _ => some (index, q.request)
  | _ => none

theorem filterMap_lookups (q : Question) : q.lookups.filterMap Lookup.call? = q.call?.toList := by
  rcases q with ⟨request, strategy⟩
  cases strategy <;> rfl

theorem filterMap_made (fs : FileSystem) (q : Question) :
    (Lookup.made fs q.lookups).filterMap Lookup.call? = q.call?.toList := by
  have hsub := (Lookup.made_sublist fs q.lookups).filterMap Lookup.call?
  rw [q.filterMap_lookups] at hsub
  rcases q with ⟨request, strategy⟩
  cases strategy with
  | fileSystem => exact List.sublist_nil.1 hsub
  | remote protocol => rfl
  | host index resolver =>
    rw [lookups, Lookup.made]
    split <;> rfl

end Question

namespace Resolution

/-- A resolution finds what its look-ups find. -/
theorem source?_ofQuestions (fs : FileSystem) (qs : List Question) :
    (ofQuestions fs qs).source? =
      (qs.flatMap Question.lookups).findSome? (Lookup.answer? fs) := by
  induction qs with
  | nil => rfl
  | cons q qs ih =>
    rw [ofQuestions, List.flatMap_cons, List.findSome?_append, ← q.source?_ask]
    split
    · rename_i s hs
      rw [hs]
      rfl
    · rename_i hs
      rw [hs]
      exact ih

/-- The resolvers of the host that a resolution asks are those that its look-ups ask. -/
theorem hostCalls_ofQuestions (fs : FileSystem) (qs : List Question) :
    (ofQuestions fs qs).hostCalls =
      (Lookup.made fs (qs.flatMap Question.lookups)).filterMap Lookup.call? := by
  have hcalls : ∀ r : Resolution, r.hostCalls = r.asked.filterMap Question.call? := fun r => rfl
  induction qs with
  | nil => rfl
  | cons q qs ih =>
    rw [hcalls] at ih ⊢
    rw [ofQuestions, List.flatMap_cons]
    split
    · -- the question is answered, and no look-up of another one is made
      rename_i s hs
      rw [q.source?_ask] at hs
      rw [Lookup.made_append_of_some hs, q.filterMap_made]
      cases h : q.call? <;> simp [h]
    · -- all look-ups of the question are made
      rename_i hs
      rw [q.source?_ask] at hs
      rw [Lookup.made_append_of_none (List.findSome?_eq_none_iff.1 hs), List.filterMap_append,
        q.filterMap_lookups, ← ih]
      cases h : q.call? <;> simp [h]

/-- The look-ups for some requests are those for one request after the other. -/
theorem lookups_questions (strict : Bool) (resolvers : List Resolver) (requests : List Text) :
    (questions requests (Strategy.available strict resolvers)).flatMap Question.lookups =
      requests.flatMap (Lookup.ofRequest strict resolvers) := by
  rw [questions, List.flatMap_assoc]
  congr 1
  funext request
  rw [List.flatMap_map]
  cases strict with
  | true => simp [Strategy.available, Question.lookups, Lookup.ofRequest]
  | false =>
    simpa [Strategy.available, Question.lookups, Lookup.ofRequest, Lookup.hosts, List.flatMap_map]
      using List.map_eq_flatMap.symm

end Resolution

/-! ## Resolvers that do not answer -/

/-- Whether the second resolver answers like the first one, except that it may not handle a request at
which the first one fails. -/
def Resolver.Mutes (r r' : Resolver) : Prop :=
  ∀ t, r' t = r t ∨ ((∃ reason, r t = .failed reason) ∧ r' t = .notHandled)

/-- Whether a resolver brings no source for any request. -/
def Resolver.NeverAnswers (r : Resolver) : Prop :=
  ∀ t, (r t).source? = none

/-! ## Look-ups that are never answered -/

namespace Lookup

variable {fs : FileSystem} {g : Nat × Text → Option (Nat × Text)} {ls ls' : List Lookup}

/-- Whether the look-ups `ls'` are answered like `ls` one after the other, but for some among them that
are never answered. `g` tells what a call among `ls'` is among `ls`, if it is there. -/
inductive Mirrors (fs : FileSystem) (g : Nat × Text → Option (Nat × Text)) :
    List Lookup → List Lookup → Prop where
  | nil : Mirrors fs g [] []
  | both {p q : Lookup} {ls ls' : List Lookup} (hanswer : q.answer? fs = p.answer? fs)
      (hcall : q.call?.bind g = p.call?) (h : Mirrors fs g ls ls') :
      Mirrors fs g (p :: ls) (q :: ls')
  | more {q : Lookup} {ls ls' : List Lookup} (hanswer : q.answer? fs = none)
      (hcall : q.call?.bind g = none) (h : Mirrors fs g ls ls') : Mirrors fs g ls (q :: ls')

namespace Mirrors

theorem append {ms ms' : List Lookup} (h : Mirrors fs g ls ls') (h' : Mirrors fs g ms ms') :
    Mirrors fs g (ls ++ ms) (ls' ++ ms') := by
  induction h with
  | nil => exact h'
  | both hanswer hcall _ ih => exact .both hanswer hcall ih
  | more hanswer hcall _ ih => exact .more hanswer hcall ih

theorem flatMap {f f' : Text → List Lookup} (h : ∀ t, Mirrors fs g (f t) (f' t)) (ts : List Text) :
    Mirrors fs g (ts.flatMap f) (ts.flatMap f') := by
  induction ts with
  | nil => exact .nil
  | cons t ts ih => exact (h t).append ih

/-- They find the same. -/
theorem findSome?_eq (h : Mirrors fs g ls ls') :
    ls'.findSome? (answer? fs) = ls.findSome? (answer? fs) := by
  induction h with
  | nil => rfl
  | both hanswer _ _ ih => rw [List.findSome?_cons, List.findSome?_cons, hanswer, ih]
  | more hanswer _ _ ih => rw [List.findSome?_cons, hanswer, ih]

/-- And they make the same calls. -/
theorem calls_eq (h : Mirrors fs g ls ls') :
    ((made fs ls').filterMap call?).filterMap g = (made fs ls).filterMap call? := by
  rw [List.filterMap_filterMap]
  induction h with
  | nil => rfl
  | both hanswer hcall _ ih =>
    rw [made, made, hanswer]
    -- both are the last ones that are made, or none of them is
    split
    · rw [List.filterMap_cons, List.filterMap_cons, hcall]
      rfl
    · rw [List.filterMap_cons, List.filterMap_cons, hcall, ih]
  | more hanswer hcall _ ih => rw [made, hanswer, List.filterMap_cons, hcall, ih]

end Mirrors

/-- Resolvers that are muted are asked the same. -/
theorem mirrors_hosts_of_mutes {rs rs' : List Resolver} (h : List.Forall₂ Resolver.Mutes rs rs')
    (n : Nat) (request : Text) : Mirrors fs some (hosts n rs request) (hosts n rs' request) := by
  induction h generalizing n with
  | nil => exact .nil
  | @cons r r' _ _ hr _ ih =>
    refine .both ?_ rfl (ih (n + 1))
    show (r' request).source? = (r request).source?
    rcases hr request with heq | ⟨⟨reason, hfailed⟩, hmuted⟩
    · rw [heq]
    · rw [hfailed, hmuted]
      rfl

/-- What is left of a call if the resolver with the index `k` is taken away and the ones behind it move
up. -/
def withoutHost (k : Nat) : Nat × Text → Option (Nat × Text)
  | (i, request) => if i = k then none else some (if i < k then i else i - 1, request)

theorem mirrors_hosts_succ {k n : Nat} (hk : k ≤ n) (rs : List Resolver) (request : Text) :
    Mirrors fs (withoutHost k) (hosts n rs request) (hosts (n + 1) rs request) := by
  induction rs generalizing n with
  | nil => exact .nil
  | cons r rs ih =>
    refine .both rfl ?_ (ih (Nat.le_succ_of_le hk))
    -- the resolver stands behind the one that is taken away
    have hne : n + 1 ≠ k := by omega
    have hlt : ¬n + 1 < k := by omega
    simp [call?, withoutHost, hne, hlt]

/-- One more resolver that never answers makes one more look-up that is never answered, and the
resolvers behind it have greater indices. -/
theorem mirrors_hosts_insert {r : Resolver} (hr : r.NeverAnswers) (fs : FileSystem)
    (before after : List Resolver) (n : Nat) (request : Text) :
    Mirrors fs (withoutHost (n + before.length)) (hosts n (before ++ after) request)
      (hosts n (before ++ r :: after) request) := by
  induction before generalizing n with
  | nil =>
    refine .more (hr request) ?_ (mirrors_hosts_succ (Nat.le_refl n) after request)
    simp [call?, withoutHost]
  | cons r' before ih =>
    refine .both rfl ?_ ?_
    · -- a resolver before the new one keeps its index
      simp [call?, withoutHost]
    · rw [List.length_cons, Nat.add_comm before.length, ← Nat.add_assoc]
      exact ih (n + 1)

end Lookup

/-! ## Setups -/

/-- An absolute request is tried only as it is. -/
theorem Resolution.candidates_of_isAbsolute (includeDir : Path) {request : Text}
    (h : Path.isAbsolute ⟨request⟩ = true) (relative : Bool) :
    candidates includeDir request relative = [request] := by
  have hjoin : includeDir.join ⟨request⟩ = ⟨request⟩ := if_pos h
  simp [candidates, hjoin]

/-- All look-ups for a request that is seen from the include directory if it is not to be taken as it
is. -/
def Setup.lookups (setup : Setup) (request : Text) (relative : Bool) : List Lookup :=
  (Resolution.candidates setup.options.includeDir request relative).flatMap
    (Lookup.ofRequest setup.options.strict setup.resolvers)

namespace Catalog

theorem source?_resolution (setup : Setup) (fs : FileSystem) (request : Text) (relative : Bool) :
    (resolution setup fs request relative).source? =
      (setup.lookups request relative).findSome? (Lookup.answer? fs) := by
  rw [resolution, Resolution.source?_ofQuestions, Resolution.lookups_questions]
  rfl

theorem hostCalls_resolution (setup : Setup) (fs : FileSystem) (request : Text) (relative : Bool) :
    (resolution setup fs request relative).hostCalls =
      (Lookup.made fs (setup.lookups request relative)).filterMap Lookup.call? := by
  rw [resolution, Resolution.hostCalls_ofQuestions, Resolution.lookups_questions]
  rfl

/-- No resolver of the host is asked more often than there are requests to try. -/
theorem count_hostCalls_le (setup : Setup) (fs : FileSystem) (request : Text) (relative : Bool)
    (i : Nat) : ((resolution setup fs request relative).hostCalls.map (·.1)).count i ≤ 2 := by
  have hone := fun t =>
    Lookup.count_ofRequest_le setup.options.strict setup.resolvers t i
  have hsub := ((Lookup.made_sublist fs (setup.lookups request relative)).filterMap
    Lookup.call?).map (·.1)
  rw [hostCalls_resolution]
  refine Nat.le_trans (hsub.count_le i) ?_
  rw [Setup.lookups, Resolution.candidates]
  split
  · simpa using Nat.le_succ_of_le (hone request)
  · simpa using Nat.add_le_add (hone request) (hone _)

end Catalog

/-- Whether a setup resolves every request like another one. `g` tells what a call of a resolver is in
the other one, if it is made there. -/
structure Setup.ResolvesLike (setup' setup : Setup) (g : Nat × Text → Option (Nat × Text)) :
    Prop where
  resolve_eq : ∀ fs span request relative,
    Catalog.resolve setup' fs span request relative = Catalog.resolve setup fs span request relative
  calls_eq : ∀ fs request relative,
    (Catalog.resolution setup' fs request relative).hostCalls.filterMap g =
      (Catalog.resolution setup fs request relative).hostCalls

/-- Setups that differ in resolvers which are never answered resolve alike. -/
theorem Setup.resolvesLike {setup : Setup} {resolvers : List Resolver}
    {g : Nat × Text → Option (Nat × Text)}
    (h : ∀ fs request, Lookup.Mirrors fs g (Lookup.hosts 0 setup.resolvers request)
      (Lookup.hosts 0 resolvers request)) :
    Setup.ResolvesLike { setup with resolvers } setup g := by
  have hmirrors : ∀ fs request relative, Lookup.Mirrors fs g (setup.lookups request relative)
      ({ setup with resolvers }.lookups request relative) := by
    intro fs request relative
    refine .flatMap ?_ _
    intro t
    -- the file system is asked alike, and that is no call
    refine .both rfl rfl ?_
    split
    · exact .nil
    · exact h fs t
  constructor
  · intro fs span request relative
    rw [Catalog.resolve, Catalog.resolve, Catalog.source?_resolution, Catalog.source?_resolution,
      (hmirrors fs request relative).findSome?_eq]
  · intro fs request relative
    rw [Catalog.hostCalls_resolution, Catalog.hostCalls_resolution,
      (hmirrors fs request relative).calls_eq]

/-! ## Requests -/

namespace Catalog

/-- The file system answers with the first spelling of a request that is a file, or fails if that
cannot be read. Of the look-ups for a request, those up to the first one that is answered are made,
and its answer is the source; the resolvers of the host are asked in these look-ups and in no other
way, each of them twice at the most. If no look-up is answered, the request is at fault. It makes no
difference whether a resolver fails or does not handle a request, nor whether one that never answers
is there at all, except that it is asked, too. -/
theorem resolve_takes_first (setup : Setup) :
    (∀ fs request a,
      Strategy.fileSystem.ask fs request = a ↔ FileSystem.Answers fs request a) ∧
    (∀ fs request relative, ∃ found? made,
      Lookup.FirstOf fs (setup.lookups request relative) found? made ∧
      (resolution setup fs request relative).hostCalls = made.filterMap Lookup.call? ∧
      (∀ i, ((resolution setup fs request relative).hostCalls.map (·.1)).count i ≤ 2) ∧
      ∀ span, resolve setup fs span request relative =
        match found? with
        | some s => .ok s
        | none => .error ⟨.unresolvedScript request, span⟩) ∧
    (∀ resolvers, List.Forall₂ Resolver.Mutes setup.resolvers resolvers →
      Setup.ResolvesLike { setup with resolvers } setup some) ∧
    ∀ before r after, setup.resolvers = before ++ after → r.NeverAnswers →
      Setup.ResolvesLike { setup with resolvers := before ++ r :: after } setup
        (Lookup.withoutHost before.length) := by
  refine ⟨fun _ _ _ => FileSystem.answer_eq_iff, ?_, ?_, ?_⟩
  · intro fs request relative
    refine ⟨_, _, Lookup.firstOf fs _, hostCalls_resolution setup fs request relative,
      count_hostCalls_le setup fs request relative, ?_⟩
    intro span
    rw [← source?_resolution]
    rfl
  · intro resolvers hmutes
    exact Setup.resolvesLike fun fs request => Lookup.mirrors_hosts_of_mutes hmutes 0 request
  · intro before r after hresolvers hr
    refine Setup.resolvesLike ?_
    intro fs request
    have hmirrors := Lookup.mirrors_hosts_insert hr fs before after 0 request
    rwa [← hresolvers, Nat.zero_add] at hmirrors

/-- A setup with a resolver that fails, and one that knows a script below the include directory. -/
def failingSetup : Setup :=
  { options := { includeDir := ⟨['/', 'i']⟩ }
    resolvers :=
      [fun _ => .failed "away".toList,
        fun t => if t = ['/', 'i', '/', 'a'] then .found ⟨⟨['b']⟩, ['x']⟩ else .notHandled] }

/-- A file `/a` that cannot be read, and a file `/a.au3` that can. -/
def lockedFile : FileSystem where
  nodes := [([['a']], .file (.unreadable "locked".toList)), (["a.au3".toList], .file (.bytes []))]
  workDir := []
  isTree := ⟨by decide, by decide, by decide, by decide⟩

theorem answer_lockedFile : lockedFile.answer ['a'] =
    .failed (unreadableMessage ⟨['a']⟩ "locked".toList) := by
  have hspelling : lockedFile.spelling? ['a'] = some (⟨['a']⟩, .unreadable "locked".toList) := by
    cbv
  rw [FileSystem.answer, hspelling]

theorem answer_lockedFile_below : lockedFile.answer ['/', 'i', '/', 'a'] = .notHandled := by
  cbv

/-- The file system fails, since it does not try another spelling. The second resolver answers when
it is asked again. -/
theorem resolve_takes_first_sample :
    lockedFile.Answers ['a'] (.failed (unreadableMessage ⟨['a']⟩ "locked".toList)) ∧
    resolve failingSetup lockedFile (.line ['m'] 1) ['a'] false = .ok ⟨⟨['b']⟩, ['x']⟩ ∧
    (resolution failingSetup lockedFile ['a'] false).hostCalls =
      [(0, ['a']), (1, ['a']), (0, ['/', 'i', '/', 'a']), (1, ['/', 'i', '/', 'a'])] ∧
    (∃ found? made, Lookup.FirstOf lockedFile (failingSetup.lookups ['a'] false) found? made ∧
      (resolution failingSetup lockedFile ['a'] false).hostCalls =
        made.filterMap Lookup.call?) ∧
    Setup.ResolvesLike
      { failingSetup with resolvers := (fun _ => .notHandled) :: failingSetup.resolvers.tail }
      failingSetup some ∧
    Setup.ResolvesLike
      { failingSetup with
        resolvers := failingSetup.resolvers.take 1 ++ (fun _ => .notHandled) ::
          failingSetup.resolvers.tail }
      failingSetup (Lookup.withoutHost 1) := by
  rcases resolve_takes_first failingSetup with ⟨hanswers, hfirst, hmuted, hmore⟩
  have hcandidates : Resolution.candidates ⟨['/', 'i']⟩ ['a'] false =
      [['a'], ['/', 'i', '/', 'a']] := by
    decide
  have hasked : (resolution failingSetup lockedFile ['a'] false).source? =
        some ⟨⟨['b']⟩, ['x']⟩ ∧
      (resolution failingSetup lockedFile ['a'] false).hostCalls =
        [(0, ['a']), (1, ['a']), (0, ['/', 'i', '/', 'a']), (1, ['/', 'i', '/', 'a'])] := by
    simp [resolution, failingSetup, answer_lockedFile, answer_lockedFile_below, hcandidates,
      Resolution.hostCalls, Resolution.questions, Strategy.available, Resolution.ofQuestions,
      Strategy.ask, Answer.source?, Protocol.refusal?, Protocol.schemes]
  refine ⟨?_, ?_, hasked.2, ?_, ?_, ?_⟩
  · exact (hanswers lockedFile ['a'] _).1 answer_lockedFile
  · rw [resolve, hasked.1]
  · rcases hfirst lockedFile ['a'] false with ⟨found?, made, hfound, hcalls, -⟩
    exact ⟨found?, made, hfound, hcalls⟩
  · refine hmuted _ (.cons ?_ (.cons (fun t => .inl rfl) .nil))
    intro t
    exact .inr ⟨⟨_, rfl⟩, rfl⟩
  · exact hmore _ _ _ rfl fun t => rfl

end Catalog

end ScriptScan
