import ScriptDiagnosis.Text.Basic
import ScriptDiagnosis.Text.Letter
import ScriptDiagnosis.Text.DecimalDigit
import ScriptDiagnosis.Script.Fault
import ScriptDiagnosis.Script.Token
import ScriptDiagnosis.Text.Blank
import ScriptDiagnosis.Text.Integer
import ScriptDiagnosis.Script.Numeral
import ScriptDiagnosis.Script.Quotation
import ScriptDiagnosis.Script.Pattern
import ScriptDiagnosis.Script.Lexer
import ScriptDiagnosis.Script.Grammar.Basic
import ScriptDiagnosis.Script.Grammar.Binding
import ScriptDiagnosis.Script.Grammar.Expression
import ScriptDiagnosis.Script.Grammar.Statement
import ScriptDiagnosis.Script.Program
import ScriptDiagnosis.Failure
import ScriptDiagnosis.SyntaxCheck.Check
import ScriptDiagnosis.SyntaxCheck.ScriptParser
import ScriptDiagnosis.Json.Basic
import ScriptDiagnosis.Json.Decoder
import ScriptDiagnosis.Json.Printer
import ScriptDiagnosis.Failure.Wording
import ScriptDiagnosis.Reply.Analysis
import ScriptDiagnosis.Provider.Denial
import ScriptDiagnosis.Suggestion.Blocks
import ScriptDiagnosis.Decimal.Binary64
import ScriptDiagnosis.Decimal.Places
import ScriptDiagnosis.Decimal.Shortest
import ScriptDiagnosis.Config
import ScriptDiagnosis.Log.Loggers
import ScriptDiagnosis.Log.Record
import ScriptDiagnosis.Log.Routing
import ScriptDiagnosis.Review.Attempt
import ScriptDiagnosis.Review.Prompt
import ScriptDiagnosis.Review.Run
import ScriptDiagnosis.SyntaxCheck.Report
import ScriptDiagnosis.Diagnosis.Basic
import ScriptDiagnosis.Diagnosis.Merge
import ScriptDiagnosis.Diagnosis.Report
import ScriptDiagnosis.Diagnosis.Run
import ScriptDiagnosis.Provider.Conversation
import ScriptDiagnosis.Provider.Contact
import ScriptDiagnosis.Session.Basic
import ScriptDiagnosis.Session.Run
import ScriptDiagnosis.CommandLine.Arguments
import ScriptDiagnosis.CommandLine.Directory
import ScriptDiagnosis.CommandLine.Help
import ScriptDiagnosis.CommandLine.Run
import ScriptDiagnosis.Main
import ScriptDiagnosis.Proofs.Reply.Fault
import ScriptDiagnosis.Proofs.Review.Attempts
import ScriptDiagnosis.Proofs.Text.Occurrence
import ScriptDiagnosis.Proofs.Json.Refusals
import ScriptDiagnosis.Proofs.Review.Taxonomy
import ScriptDiagnosis.Proofs.Diagnosis.Denial
import ScriptDiagnosis.Proofs.Session.LatestWins
import ScriptDiagnosis.Proofs.Suggestion.Segmentation
import ScriptDiagnosis.Proofs.Review.Timeline
import ScriptDiagnosis.Proofs.Reply.RoundTrip
import ScriptDiagnosis.Proofs.Text.Lines
import ScriptDiagnosis.Proofs.Script.Positions
import ScriptDiagnosis.Proofs.SyntaxCheck.Verdicts
import ScriptDiagnosis.Proofs.SyntaxCheck.Relocation
import ScriptDiagnosis.Proofs.SyntaxCheck.Enclosure
import ScriptDiagnosis.Proofs.Diagnosis.Recovery
import ScriptDiagnosis.Proofs.Provider.Incidents
import ScriptDiagnosis.Proofs.Session.Works
import ScriptDiagnosis.Proofs.Session.Course
import ScriptDiagnosis.Proofs.Session.Happenings
import ScriptDiagnosis.Proofs.Session.OneLive
import ScriptDiagnosis.Proofs.Session.Apart
import ScriptDiagnosis.Proofs.Session.Waiting
import ScriptDiagnosis.Proofs.Session.Awakening
import ScriptDiagnosis.Proofs.Session.Settlement
import ScriptDiagnosis.Proofs.CommandLine.Printed
import ScriptDiagnosis.Proofs.Suggestion.Composition
import ScriptDiagnosis.Proofs.Suggestion.Concatenation
import ScriptDiagnosis.Proofs.Reply.Surroundings
import ScriptDiagnosis.Proofs.CommandLine.Status
import ScriptDiagnosis.Proofs.CommandLine.Credential
import ScriptDiagnosis.Proofs.Reply.Fences
import ScriptDiagnosis.Proofs.SyntaxCheck.NamedLine
import ScriptDiagnosis.Proofs.Review.PromptText
import ScriptDiagnosis.Proofs.Diagnosis.Complaint
import ScriptDiagnosis.Proofs.Provider.Signals
import ScriptDiagnosis.Proofs.Provider.Denials
import ScriptDiagnosis.Proofs.CommandLine.Input
import ScriptDiagnosis.Proofs.SyntaxCheck.LineSources
import ScriptDiagnosis.Proofs.Log.LastSetUp
import ScriptDiagnosis.Proofs.CommandLine.Flags
import ScriptDiagnosis.Proofs.CommandLine.Presentation
