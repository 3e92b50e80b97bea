import ScriptScan.Path

/-!
# Arguments

The command line names files and directories, and options among them or before them. An option that
takes no value has none; one that takes a value has it behind an equals sign or in the next
argument. After two dashes everything is a path. Whatever does not fit is a usage error.
-/

namespace ScriptScan

namespace CommandLine

/-- What the command line asks for. -/
structure Command where
  strict : Bool := false
  json : Bool := false
  includeDir? : Option Path := none
  verbosity : Nat := 0
  paths : List Path := []
deriving DecidableEq, Repr

/-- Why nothing is done. -/
inductive Refusal where
  /-- The help text is asked for. -/
  | help
  /-- The arguments do not fit. -/
  | usage
deriving DecidableEq, Repr

/-- What one argument asks for. -/
inductive Arg where
  | strict
  | json
  | verbose (times : Nat)
  | help
  | includeDir (value : Text)
  /-- The option whose value is the next argument. -/
  | includeDirNext
  | path (p : Text)
  /-- Everything after this is a path. -/
  | endOfOptions
  | unknown
deriving DecidableEq, Repr

/-- The meaning of letters behind a single dash. A letter h asks for help as soon as it is met. -/
def readLetters (times : Nat) : Text → Arg
  | [] => .verbose times
  | 'v' :: t => readLetters (times + 1) t
  | 'h' :: _ => .help
  | _ => .unknown

/-- The meaning of a word behind two dashes. -/
def readLong (t : Text) : Arg :=
  match t.splitFirst? '=' with
  | some (name, value) => if name = "include-dir".toList then .includeDir value else .unknown
  | none =>
    if t = "strict".toList then .strict
    else if t = "json".toList then .json
    else if t = "verbose".toList then .verbose 1
    else if t = "help".toList then .help
    else if t = "include-dir".toList then .includeDirNext
    else .unknown

/-- The meaning of an argument. A single dash is a path. -/
def Arg.read (t : Text) : Arg :=
  match t with
  | ['-', '-'] => .endOfOptions
  | '-' :: '-' :: name => readLong name
  | ['-'] => .path t
  | '-' :: letters => readLetters 0 letters
  | _ => .path t

/-- Whether an argument can be the value of the option before it. -/
def isValue (t : Text) : Bool :=
  !t.isEmpty && (t = ['-'] || t.head? != some '-')

namespace Command

/-- The command with one more path. The empty text is none. -/
def addPath (c : Command) (t : Text) : Except Refusal Command :=
  if t.isEmpty then .error .usage else .ok { c with paths := c.paths ++ [⟨t⟩] }

/-- The command with some more paths. -/
def addPaths (c : Command) : List Text → Except Refusal Command
  | [] => .ok c
  | t :: ts =>
    match c.addPath t with
    | .error e => .error e
    | .ok c' => c'.addPaths ts

/-- The command with an include directory. It cannot be given twice. -/
def setIncludeDir (c : Command) (t : Text) : Except Refusal Command :=
  if t.isEmpty || c.includeDir?.isSome then .error .usage
  else .ok { c with includeDir? := some ⟨t⟩ }

/-- The command with what an argument asks for that needs no other argument. -/
def apply (c : Command) : Arg → Except Refusal Command
  | .strict => if c.strict then .error .usage else .ok { c with strict := true }
  | .json => if c.json then .error .usage else .ok { c with json := true }
  | .verbose times => .ok { c with verbosity := c.verbosity + times }
  | .help => .error .help
  | .includeDir value => c.setIncludeDir value
  | .path p => c.addPath p
  | .includeDirNext => .error .usage
  | .endOfOptions => .ok c
  | .unknown => .error .usage

/-- Reads the arguments into a command. -/
def readArgs (c : Command) : List Text → Except Refusal Command
  | [] => .ok c
  | t :: ts =>
    match Arg.read t with
    | .endOfOptions => c.addPaths ts
    | .includeDirNext =>
      match ts with
      | [] => .error .usage
      | value :: rest =>
        if isValue value then
          match c.setIncludeDir value with
          | .error e => .error e
          | .ok c' => c'.readArgs rest
        else .error .usage
    | arg =>
      match c.apply arg with
      | .error e => .error e
      | .ok c' => c'.readArgs ts

/-- The command that some arguments give. It needs at least one path. -/
def ofArgs (args : List Text) : Except Refusal Command :=
  match readArgs {} args with
  | .error e => .error e
  | .ok c => if c.paths.isEmpty then .error .usage else .ok c

end Command

end CommandLine

end ScriptScan
