import ScriptScan.FileSystem
import ScriptScan.Remote
import ScriptScan.Text.Utf8

/-!
# Resolution

A request for a script is resolved by asking one strategy after the other, first about the request
itself and then, perhaps, about the request seen from the include directory. The file system is
asked first, then the network, then the resolvers of the host. The first answer counts; a strategy
that fails is passed over like one that does not handle the request. So a file that cannot be read
counts as one that is missing, except that no other spelling of its request is tried. A resolution
tells what was asked, and what came of it.
-/

namespace ScriptScan

/-- The text of a script, and the path or address where it was found. -/
structure Source where
  path : Path
  content : Text
deriving DecidableEq, Repr

/-- What a strategy answers to a request. -/
inductive Answer where
  | found (source : Source)
  | notHandled
  | failed (reason : Text)
deriving DecidableEq, Repr

/-- The source that an answer brings, if it brings one. -/
def Answer.source? : Answer → Option Source
  | found s => some s
  | notHandled => none
  | failed _ => none

/-- A resolver of the host. -/
abbrev Resolver := Text → Answer

/-! ## The file system -/

/-- What may be missing at the end of a request, in the order in which it is tried. -/
def scriptExtensions : List Text :=
  [[], ".au3".toList, ".au2".toList, ".au".toList]

/-- The file that a request means, with what reading it comes to: the first of its spellings that is
a file. -/
def FileSystem.spelling? (fs : FileSystem) (request : Text) : Option (Path × FileContent) :=
  scriptExtensions.findSome? fun ext =>
    let path : Path := ⟨request ++ ext⟩
    (fs.file? path).map (path, ·)

/-- Tells that a file cannot be read. -/
def unreadableMessage (path : Path) (reason : Text) : Text :=
  "Failed to read script ".toList ++ path.text ++ ": ".toList ++ reason

/-- What the file system answers to a request. If the file that it means cannot be read, no other
spelling is tried. -/
def FileSystem.answer (fs : FileSystem) (request : Text) : Answer :=
  match fs.spelling? request with
  | none => .notHandled
  | some (path, .bytes bytes) => .found ⟨path, Utf8.decodeSource bytes⟩
  | some (path, .unreadable reason) => .failed (unreadableMessage path reason)

/-- The source that the file system has for a request. -/
def FileSystem.source? (fs : FileSystem) (request : Text) : Option Source :=
  (fs.answer request).source?

/-! ## Strategies -/

/-- A way to answer a request. -/
inductive Strategy where
  | fileSystem
  | remote (protocol : Protocol)
  | host (index : Nat) (resolver : Resolver)

namespace Strategy

/-- Asks about a request. -/
def ask (fs : FileSystem) (request : Text) : Strategy → Answer
  | fileSystem => fs.answer request
  | remote protocol =>
    match protocol.refusal? request with
    | some e => .failed (Protocol.refusalMessage request e)
    | none => .notHandled
  | host _ resolver => resolver request

/-- The strategies that may be asked, in order. In strict mode only the file system is asked. -/
def available (strict : Bool) (resolvers : List Resolver) : List Strategy :=
  if strict then [fileSystem]
  else
    [fileSystem, remote .http, remote .ftp] ++ resolvers.zipIdx.map fun (r, i) => host i r

end Strategy

/-! ## Resolution -/

/-- A question: a request, and the strategy that is asked about it. -/
structure Question where
  request : Text
  strategy : Strategy

/-- What was asked, in order, and what was found. -/
structure Resolution where
  asked : List Question
  source? : Option Source

namespace Resolution

/-- Asks one question after the other until one is answered with a source. -/
def ofQuestions (fs : FileSystem) : List Question → Resolution
  | [] => ⟨[], none⟩
  | q :: qs =>
    match (q.strategy.ask fs q.request).source? with
    | some s => ⟨[q], some s⟩
    | none =>
      let rest := ofQuestions fs qs
      { rest with asked := q :: rest.asked }

/-- The requests that are tried: the one given, and, unless it is to be taken as it is, the same
seen from the include directory, if that makes a difference. -/
def candidates (includeDir : Path) (request : Text) (relative : Bool) : List Text :=
  let joined := includeDir.join ⟨request⟩
  if relative || joined.same ⟨request⟩ then [request] else [request, joined.text]

/-- All questions about some requests, request by request. -/
def questions (requests : List Text) (strategies : List Strategy) : List Question :=
  requests.flatMap fun r => strategies.map (⟨r, ·⟩)

/-- The resolvers of the host that were asked, by their index, and about what. -/
def hostCalls (r : Resolution) : List (Nat × Text) :=
  r.asked.filterMap fun q =>
    match q.strategy with
    | .host index _ => some (index, q.request)
    | _ => none

end Resolution

end ScriptScan
