import RoleAudit.CommandLine
import RoleAudit.Declaration
import RoleAudit.Failure
import RoleAudit.Files.Access
import RoleAudit.Files.Disk
import RoleAudit.Files.Edit
import RoleAudit.Files.Fault
import RoleAudit.Files.Node
import RoleAudit.Files.Path
import RoleAudit.Json.Printer
import RoleAudit.Json.Reader
import RoleAudit.Log.Context
import RoleAudit.Log.Entry
import RoleAudit.Log.Handler
import RoleAudit.Log.Setup
import RoleAudit.Main
import RoleAudit.Number.FloatText
import RoleAudit.Number.Reading
import RoleAudit.Number.Shortest
import RoleAudit.Policy
import RoleAudit.Proofs.Files.Additions
import RoleAudit.Proofs.Files.Alike
import RoleAudit.Proofs.Files.Directories
import RoleAudit.Proofs.Files.Following
import RoleAudit.Proofs.Files.Growth
import RoleAudit.Proofs.Files.Keeping
import RoleAudit.Proofs.Files.Listing
import RoleAudit.Proofs.Files.NewFile
import RoleAudit.Proofs.Files.Parts
import RoleAudit.Proofs.Files.Routes
import RoleAudit.Proofs.Json.Numerals
import RoleAudit.Proofs.Log.Configuring
import RoleAudit.Proofs.Log.Nesting
import RoleAudit.Proofs.Policy.Agreement
import RoleAudit.Proofs.Policy.Alike
import RoleAudit.Proofs.Policy.Display
import RoleAudit.Proofs.Policy.Members
import RoleAudit.Proofs.Policy.Opening
import RoleAudit.Proofs.Policy.Scopes
import RoleAudit.Proofs.Policy.Spelling
import RoleAudit.Proofs.Report.Account
import RoleAudit.Proofs.Report.Confinement
import RoleAudit.Proofs.Report.Lifetime
import RoleAudit.Proofs.Report.Lines
import RoleAudit.Proofs.Report.Making
import RoleAudit.Proofs.Report.Precedence
import RoleAudit.Proofs.Report.Repeating
import RoleAudit.Proofs.Report.Summary
import RoleAudit.Proofs.Report.Writing
import RoleAudit.Proofs.Roles.Ascending
import RoleAudit.Proofs.Roles.Display
import RoleAudit.Proofs.Roles.DisplayOrder
import RoleAudit.Proofs.Roles.Unambiguous
import RoleAudit.Proofs.Run.Blame
import RoleAudit.Proofs.Run.Ending
import RoleAudit.Proofs.Scan.Counting
import RoleAudit.Proofs.Scan.Flawed
import RoleAudit.Proofs.Scan.Marking
import RoleAudit.Proofs.Scan.Pulling
import RoleAudit.Proofs.Scan.Recording
import RoleAudit.Proofs.Scan.Streaming
import RoleAudit.Proofs.Scan.Strictness
import RoleAudit.Proofs.Scan.Telling
import RoleAudit.Proofs.Settings.Mishaps
import RoleAudit.Proofs.Settings.Nulled
import RoleAudit.Proofs.Settings.Objections
import RoleAudit.Proofs.Settings.Precedence
import RoleAudit.Proofs.Settings.Resolving
import RoleAudit.Proofs.Settings.WellFormed
import RoleAudit.Proofs.Source.Drawing
import RoleAudit.Proofs.Source.Flaws
import RoleAudit.Proofs.Source.NameRules
import RoleAudit.Proofs.Source.NameTokens
import RoleAudit.Proofs.Source.Names
import RoleAudit.Proofs.Source.Places
import RoleAudit.Proofs.Source.Qualified
import RoleAudit.Proofs.Source.Readings
import RoleAudit.Proofs.Source.Retouching
import RoleAudit.Proofs.Source.SimpleName
import RoleAudit.Proofs.Text.Folding
import RoleAudit.Proofs.Text.Lines
import RoleAudit.Proofs.Text.Runs
import RoleAudit.Proofs.Text.Tidy
import RoleAudit.Proofs.Text.Trimming
import RoleAudit.Proofs.Value.Writable
import RoleAudit.Proofs.Walk.Candidates
import RoleAudit.Proofs.Walk.Course
import RoleAudit.Proofs.Walk.Loops
import RoleAudit.Proofs.Walk.Marking
import RoleAudit.Proofs.Walk.Order
import RoleAudit.Proofs.Walk.Searching
import RoleAudit.Proofs.Walk.Stations
import RoleAudit.Proofs.Walk.Trail
import RoleAudit.Proofs.Walk.Visiting
import RoleAudit.Report.Generate
import RoleAudit.Report.Sink
import RoleAudit.Report.Summary
import RoleAudit.Report.Writer
import RoleAudit.Roles
import RoleAudit.Row
import RoleAudit.Run
import RoleAudit.Scan.Loading
import RoleAudit.Scan.Step
import RoleAudit.Scan.Stream
import RoleAudit.Settings
import RoleAudit.Settings.Failure
import RoleAudit.Settings.Loading
import RoleAudit.Settings.Overrides
import RoleAudit.Settings.Payload
import RoleAudit.Settings.Resolve
import RoleAudit.Source.Chart
import RoleAudit.Source.Construct
import RoleAudit.Source.Flaws
import RoleAudit.Source.Grammar.Automaton
import RoleAudit.Source.Grammar.Phrase
import RoleAudit.Source.Grammar.Rules
import RoleAudit.Source.Reader
import RoleAudit.Source.Repair
import RoleAudit.Source.Skeleton
import RoleAudit.Source.Terminal
import RoleAudit.Source.Token
import RoleAudit.Source.Tree
import RoleAudit.Statistics
import RoleAudit.Tag
import RoleAudit.Text.Base64
import RoleAudit.Text.Blank
import RoleAudit.Text.DecimalDigit
import RoleAudit.Text.Encoding
import RoleAudit.Text.Glyph
import RoleAudit.Text.Hex
import RoleAudit.Text.Identifier
import RoleAudit.Text.Lowercase
import RoleAudit.Text.Pattern
import RoleAudit.Text.Printable
import RoleAudit.Text.Quoted
import RoleAudit.Text.SingleLine
import RoleAudit.Value.Basic
import RoleAudit.Value.Calendar
import RoleAudit.Value.Text
import RoleAudit.Walk.Candidate
import RoleAudit.Walk.Search
import RoleAudit.Walk.Traversal
import RoleAudit.Yaml.Cursor
import RoleAudit.Yaml.Document
import RoleAudit.Yaml.Error
import RoleAudit.Yaml.Graph
import RoleAudit.Yaml.Mark
import RoleAudit.Yaml.Moment
import RoleAudit.Yaml.PlainTag
import RoleAudit.Yaml.Queue
import RoleAudit.Yaml.Scalar
import RoleAudit.Yaml.ScalarValue
import RoleAudit.Yaml.Token
import RoleAudit.Proofs.Run.Stages
