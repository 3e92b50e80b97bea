import ScriptScan.Text.Upper
import ScriptScan.Text.Keyword
import ScriptScan.Text.Comment
import ScriptScan.Text.Visible
import ScriptScan.Fault
import ScriptScan.Param.Parser
import ScriptScan.Json.Parser
import ScriptScan.Json.Printer
import ScriptScan.Decimal.Nearest
import ScriptScan.Decimal.Shortest
import ScriptScan.Json.Record
import ScriptScan.CallResult
import ScriptScan.Line.Logical
import ScriptScan.Text.Utf8
import ScriptScan.FileSystem
import ScriptScan.Line.Rule
import ScriptScan.Func
import ScriptScan.Script.Outline
import ScriptScan.Script.Lifecycle
import ScriptScan.Catalog
import ScriptScan.CommandLine
import ScriptScan.Main
import ScriptScan.Report.Workers
import ScriptScan.Proofs.Catalog.Index
import ScriptScan.Proofs.Catalog.Bodies
import ScriptScan.Proofs.Source.BlockComment
import ScriptScan.Proofs.Report.Workers
import ScriptScan.Proofs.Catalog.Growth
import ScriptScan.Proofs.Source.Strict
import ScriptScan.Proofs.Catalog.Strict
import ScriptScan.Proofs.Catalog.BlockForm
import ScriptScan.Proofs.Source.CleanCut
import ScriptScan.Proofs.Param.Printing
import ScriptScan.Proofs.Script.Lifecycle
import ScriptScan.Proofs.Source.Expansions
import ScriptScan.Proofs.Outline.Each
import ScriptScan.Proofs.Report.Enumeration
import ScriptScan.Proofs.Text.Comment
import ScriptScan.Proofs.Text.Code
import ScriptScan.Proofs.Source.IfHeader
import ScriptScan.Proofs.Outline.Faults
import ScriptScan.Proofs.Source.Portions
import ScriptScan.Proofs.Source.Faults
import ScriptScan.Proofs.Catalog.Faults
import ScriptScan.Proofs.Func.Span
import ScriptScan.Proofs.Catalog.Duplicates
import ScriptScan.Proofs.Text.LetterCase
import ScriptScan.Proofs.Catalog.Reachable
import ScriptScan.Proofs.Catalog.Mains
import ScriptScan.Proofs.Pragma.Registry
import ScriptScan.Proofs.Pragma.Reach
import ScriptScan.Proofs.Line.Continuation
import ScriptScan.Proofs.Source.Continuation
import ScriptScan.Proofs.Source.Lenient
import ScriptScan.Proofs.Catalog.FirstFault
import ScriptScan.Proofs.Catalog.Params
import ScriptScan.Proofs.Line.Nesting
import ScriptScan.Proofs.Outline.Labels
import ScriptScan.Proofs.Source.Blocks
import ScriptScan.Proofs.Catalog.Labels
import ScriptScan.Proofs.Catalog.Spans
import ScriptScan.Proofs.Resolution
import ScriptScan.Proofs.Pragma.Owner
import ScriptScan.Proofs.FileSystem.Canonical
import ScriptScan.Proofs.Catalog.Cached
import ScriptScan.Proofs.CommandLine.Listed
import ScriptScan.Proofs.Outline.RuleOrder
