import ScriptScan.CommandLine.Args
import ScriptScan.CommandLine.Files
import ScriptScan.Report.Printer

/-!
# The command line

The command scans script files and prints a report. Its exit code is 0 if no file has a fault, 1 if
one has or if the files cannot be told, and 2 if the arguments do not fit.
-/

namespace ScriptScan

namespace CommandLine

/-- What a run of the command leaves behind: its exit code, and what it writes. -/
structure Exit where
  code : Nat
  output : Text := []
  errors : List Text := []
deriving DecidableEq, Repr

/-- The include directory that is used unless another one is given. -/
def defaultIncludeDir : Path := ⟨"include".toList⟩

/-- How the files of a command are scanned. -/
def Command.setup (c : Command) : Setup :=
  { options := { strict := c.strict, includeDir := c.includeDir?.getD defaultIncludeDir } }

/-- Tells that the files cannot be told. -/
def FilesError.exit (e : FilesError) : Exit :=
  { code := 1
    errors := ["RESULT:ERROR".toList, "ERROR_CODE:".toList ++ e.code,
      "ERROR_MSG_JSON:".toList ++ Json.quote e.message] }

/-- Carries out a command. -/
def Command.run (c : Command) (fs : FileSystem) : Exit :=
  match scriptFiles fs c.paths with
  | .error e => e.exit
  | .ok files =>
    let report := Report.ofOutcomes (Report.scanFiles c.setup fs (.initial []) files)
    { code := if report.isClean then 0 else 1
      output := if c.json then report.toJson.pretty ++ ['\n'] else report.text }

/-- The text that help is asked for with. -/
def helpText : Text :=
  ("Scan AutoIt scripts and print their function tables\n\n" ++
    "Usage: au-scan [OPTIONS] <PATHS>...\n\n" ++
    "Arguments:\n  <PATHS>...  Script files or directories to walk for .au3 files\n\n" ++
    "Options:\n      --strict       Reject experimental syntax and resolve includes from the " ++
    "filesystem only\n      --include-dir <INCLUDE_DIR>\n      --json\n  -v, --verbose...\n" ++
    "  -h, --help         Print help\n").toList

/-- Runs the command with some arguments. -/
def run (fs : FileSystem) (args : List Text) : Exit :=
  match Command.ofArgs args with
  | .error .usage => { code := 2, errors := ["error: the arguments do not fit".toList] }
  | .error .help => { code := 0, output := helpText }
  | .ok c => c.run fs

end CommandLine

end ScriptScan
