import ApiProbe.Abort
import ApiProbe.Calendar
import ApiProbe.CommandLine
import ApiProbe.Decimal.Exact
import ApiProbe.Decimal.Notation
import ApiProbe.Decimal.Reading
import ApiProbe.Decimal.Shortest
import ApiProbe.Extraction
import ApiProbe.Http.Codec
import ApiProbe.Http.Filling
import ApiProbe.Http.Message
import ApiProbe.Http.Query
import ApiProbe.Json.Decode
import ApiProbe.Json.Locate
import ApiProbe.Json.Printer
import ApiProbe.Json.Reader
import ApiProbe.Json.Value
import ApiProbe.JsonPath.Basic
import ApiProbe.JsonPath.Query
import ApiProbe.JsonPath.Reader
import ApiProbe.Machine.Callback
import ApiProbe.Machine.Evaluation
import ApiProbe.Machine.Expectation
import ApiProbe.Machine.Fault
import ApiProbe.Machine.Library
import ApiProbe.Machine.Library.Basic
import ApiProbe.Machine.Library.Lists
import ApiProbe.Machine.Library.Numbers
import ApiProbe.Machine.Library.Records
import ApiProbe.Machine.Library.Texts
import ApiProbe.Machine.Member
import ApiProbe.Machine.Operator
import ApiProbe.Machine.Probe
import ApiProbe.Machine.State
import ApiProbe.Machine.Value
import ApiProbe.Main
import ApiProbe.Plain.Pruning
import ApiProbe.Plain.Reader
import ApiProbe.Plain.Syntax
import ApiProbe.Plain.Token
import ApiProbe.Proofs.Decimal.Written
import ApiProbe.Proofs.JsonPath.Addressing
import ApiProbe.Proofs.JsonPath.Composition
import ApiProbe.Proofs.JsonPath.Continuation
import ApiProbe.Proofs.JsonPath.Spelling
import ApiProbe.Proofs.Machine.Execution
import ApiProbe.Proofs.Machine.Hosting
import ApiProbe.Proofs.Machine.Keeping
import ApiProbe.Proofs.Rule.Batch
import ApiProbe.Proofs.Rule.Outcome
import ApiProbe.Proofs.Sandbox.Confinement
import ApiProbe.Proofs.Script.BracketBreaks
import ApiProbe.Proofs.Script.CarriedBreaks
import ApiProbe.Proofs.Script.LineBreaks
import ApiProbe.Proofs.Script.Lookahead
import ApiProbe.Proofs.Script.SourceBreaks
import ApiProbe.Proofs.Script.WrittenBreaks
import ApiProbe.Proofs.Text.Trimming
import ApiProbe.Proofs.Variable.Confinement
import ApiProbe.Proofs.Variable.Masking
import ApiProbe.Proofs.Variable.Expansion
import ApiProbe.Proofs.Variable.Operation
import ApiProbe.Proofs.Xml.Escaping
import ApiProbe.Proofs.Xml.RoundTrip
import ApiProbe.Regex.Basic
import ApiProbe.Regex.Matching
import ApiProbe.Regex.Program
import ApiProbe.Regex.Reader
import ApiProbe.Regex.Replacement
import ApiProbe.Rule.Basic
import ApiProbe.Rule.Batch
import ApiProbe.Rule.Book
import ApiProbe.Rule.Codec
import ApiProbe.Rule.Directive
import ApiProbe.Sandbox
import ApiProbe.Script.Language
import ApiProbe.Script.Literal
import ApiProbe.Script.Lowering
import ApiProbe.Script.Token
import ApiProbe.Settings
import ApiProbe.Supply
import ApiProbe.Table
import ApiProbe.Text.Base64
import ApiProbe.Text.Blank
import ApiProbe.Text.Casing
import ApiProbe.Text.Category
import ApiProbe.Text.Classes
import ApiProbe.Text.Numeral
import ApiProbe.Text.Quoted
import ApiProbe.Text.Search
import ApiProbe.Text.Split
import ApiProbe.Text.Utf8
import ApiProbe.Variable.Access
import ApiProbe.Variable.Codec
import ApiProbe.Variable.Error
import ApiProbe.Variable.Generated
import ApiProbe.Variable.History
import ApiProbe.Variable.Record
import ApiProbe.Variable.Scope
import ApiProbe.Variable.Store
import ApiProbe.Variable.Substitution
import ApiProbe.Workspace
import ApiProbe.Xml.Entity
import ApiProbe.Xml.Path
import ApiProbe.Xml.Reader
import ApiProbe.Xml.Tree
import ApiProbe.Proofs.Table.Order
import ApiProbe.Proofs.Variable.Slots
import ApiProbe.Proofs.Variable.PartialMap
import ApiProbe.Proofs.Variable.Audit
import ApiProbe.Proofs.Variable.Log
import ApiProbe.Proofs.Variable.Retention
import ApiProbe.Proofs.Attempt
import ApiProbe.Proofs.Rule.Merging
import ApiProbe.Rule.File
import ApiProbe.Proofs.Rule.Operation
import ApiProbe.Proofs.Rule.Capture
import ApiProbe.Proofs.Rule.Importing
import ApiProbe.Proofs.Json.Quoting
import ApiProbe.Proofs.Json.RoundTrip
import ApiProbe.Proofs.Json.Record
import ApiProbe.Proofs.Rule.Persistence
import ApiProbe.Proofs.Script.SourceLines
import ApiProbe.Proofs.Script.Frames
import ApiProbe.Proofs.Script.WellNested
import ApiProbe.Proofs.Script.Inert
import ApiProbe.Proofs.Variable.Naming
import ApiProbe.Proofs.Variable.Completeness
import ApiProbe.Proofs.Variable.Attribution
import ApiProbe.Proofs.Xml.Markup.Origin
import ApiProbe.Proofs.Xml.Addressing
import ApiProbe.Proofs.Machine.Entering
import ApiProbe.Proofs.Sandbox.Isolation
import ApiProbe.Proofs.Script.PlacedRun
import ApiProbe.Proofs.Rule.Extracting
import ApiProbe.Proofs.Settings.Validity
import ApiProbe.Proofs.Variable.Escapes
import ApiProbe.Proofs.Variable.Copying
import ApiProbe.Proofs.Variable.Shortcuts
import ApiProbe.Proofs.JsonPath.Slicing
import ApiProbe.Proofs.Variable.Deepening
import ApiProbe.Proofs.Text.Cutting
import ApiProbe.Proofs.Decimal.Nearest
import ApiProbe.Proofs.JsonPath.Filtering
import ApiProbe.Proofs.Json.KeyOrder
import ApiProbe.Proofs.JsonPath.Locating
import ApiProbe.Proofs.JsonPath.DocumentOrder
import ApiProbe.Proofs.Text.ByteOrder
import ApiProbe.Proofs.JsonPath.Comparing
import ApiProbe.Proofs.JsonPath.RootSign
import ApiProbe.Proofs.Machine.Negation
import ApiProbe.Proofs.Plain.Members
import ApiProbe.Proofs.Xml.Markup
import ApiProbe.Proofs.Xml.Steps
import ApiProbe.Proofs.Xml.Markup.Reading
import ApiProbe.Proofs.Xml.Comments
import ApiProbe.Proofs.Xml.Attributes
import ApiProbe.Proofs.Xml.References
import ApiProbe.Proofs.Script.Requoting
import ApiProbe.Proofs.Script.CommonScripts
import ApiProbe.Proofs.Script.MemberScripts
import ApiProbe.Proofs.Script.PatternQuoting
import ApiProbe.Proofs.Script.Placeholders
import ApiProbe.Proofs.Sandbox.ResponseMembers
import ApiProbe.Proofs.Decimal.Worth
import ApiProbe.Proofs.Machine.Documents
import ApiProbe.Proofs.Machine.Kinds
import ApiProbe.Proofs.Machine.IntegerChecks
import ApiProbe.Proofs.Rule.PathSpellings
import ApiProbe.Proofs.Rule.WrittenDirectives
import ApiProbe.Proofs.Rule.CaptureImport
import ApiProbe.Proofs.Http.HeaderGroups
import ApiProbe.Proofs.Sandbox.HeaderViews
import ApiProbe.Proofs.Text.LeadingIntegers
import ApiProbe.Proofs.Text.Positions
import ApiProbe.Proofs.Regex.Templates
import ApiProbe.Proofs.Decimal.Grammar
import ApiProbe.Proofs.Decimal.Scientific
import ApiProbe.Proofs.Text.LeadingDecimals
