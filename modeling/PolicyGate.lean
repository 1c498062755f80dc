import PolicyGate.Change.Basic
import PolicyGate.Change.Git
import PolicyGate.Change.Listing
import PolicyGate.CommandLine.Arguments
import PolicyGate.CommandLine.Help
import PolicyGate.CommandLine.Options
import PolicyGate.CommandLine.Session
import PolicyGate.Decimal.Shortest
import PolicyGate.Evidence.BodySection
import PolicyGate.Evidence.Content
import PolicyGate.Evidence.NormalForm
import PolicyGate.Evidence.Requirement
import PolicyGate.Evidence.Verdict
import PolicyGate.Failure
import PolicyGate.Gate.Assessment
import PolicyGate.Gate.Inspection
import PolicyGate.Gate.Report
import PolicyGate.Json.Error
import PolicyGate.Json.Numbers
import PolicyGate.Json.Reader
import PolicyGate.Json.Strings
import PolicyGate.Json.Values
import PolicyGate.Main
import PolicyGate.Pattern.Basic
import PolicyGate.Pattern.Groups
import PolicyGate.Pattern.Reader
import PolicyGate.Pattern.SetReader
import PolicyGate.Pattern.Size
import PolicyGate.Policy.Basic
import PolicyGate.Policy.Coverage
import PolicyGate.Policy.File
import PolicyGate.Proofs.Change.ListingAgreement
import PolicyGate.Proofs.Change.PathListing
import PolicyGate.Proofs.Change.StatusListing
import PolicyGate.Proofs.CommandLine.Outcome
import PolicyGate.Proofs.Evidence.BlankMarker
import PolicyGate.Proofs.Evidence.Blocks
import PolicyGate.Proofs.Evidence.BuiltIn
import PolicyGate.Proofs.Evidence.Decision
import PolicyGate.Proofs.Evidence.Fallback
import PolicyGate.Proofs.Evidence.Heading
import PolicyGate.Proofs.Evidence.Insertion
import PolicyGate.Proofs.Evidence.Keywords
import PolicyGate.Proofs.Evidence.LetterCase
import PolicyGate.Proofs.Evidence.LineEnds
import PolicyGate.Proofs.Evidence.NewSection
import PolicyGate.Proofs.Evidence.NormalForm
import PolicyGate.Proofs.Evidence.Occurrence
import PolicyGate.Proofs.Evidence.Ownership
import PolicyGate.Proofs.Evidence.Reading
import PolicyGate.Proofs.Evidence.Relaxation
import PolicyGate.Proofs.Evidence.SectionOrder
import PolicyGate.Proofs.Evidence.SectionTemplate
import PolicyGate.Proofs.Evidence.Sections
import PolicyGate.Proofs.Evidence.Selection
import PolicyGate.Proofs.Evidence.TemplateLanguage
import PolicyGate.Proofs.Gate.Bodies
import PolicyGate.Proofs.Gate.Decision
import PolicyGate.Proofs.Gate.Enforcement
import PolicyGate.Proofs.Gate.Failures
import PolicyGate.Proofs.Gate.Gathering
import PolicyGate.Proofs.Gate.Growth
import PolicyGate.Proofs.Gate.Renames
import PolicyGate.Proofs.Gate.Session
import PolicyGate.Proofs.Gate.Steps
import PolicyGate.Proofs.Pattern.Spelling
import PolicyGate.Proofs.Policy.Scope
import PolicyGate.Proofs.Text.LineReaders
import PolicyGate.Proofs.Text.Pieces
import PolicyGate.Proofs.Text.Words
import PolicyGate.Proofs.Unicode.Blanks
import PolicyGate.Proofs.Unicode.Letters
import PolicyGate.Proofs.Unicode.LowerCase
import PolicyGate.Proofs.Unicode.Tables
import PolicyGate.PullRequest.Basic
import PolicyGate.PullRequest.Payload
import PolicyGate.Scan.Installed
import PolicyGate.Scan.Result
import PolicyGate.Text.Blank
import PolicyGate.Text.Digit
import PolicyGate.Text.Lines
import PolicyGate.Text.Quoted
import PolicyGate.Text.Search
import PolicyGate.Text.Utf8
import PolicyGate.Toml.Document
import PolicyGate.Toml.Record
import PolicyGate.Toml.Scalar
import PolicyGate.Toml.Text
import PolicyGate.Toml.Value
import PolicyGate.Unicode.Age
import PolicyGate.Unicode.Break
import PolicyGate.Unicode.ByteForm
import PolicyGate.Unicode.CaseRun
import PolicyGate.Unicode.Casing
import PolicyGate.Unicode.Category
import PolicyGate.Unicode.CharSet
import PolicyGate.Unicode.Folding
import PolicyGate.Unicode.Property
import PolicyGate.Unicode.PropertyName
import PolicyGate.Unicode.Ranges
import PolicyGate.Unicode.Script
import PolicyGate.Unicode.ScriptExtension
import PolicyGate.Workspace.Access
import PolicyGate.Workspace.Basic
import PolicyGate.Workspace.Path
import PolicyGate.Workspace.SearchPath
import PolicyGate.Workspace.Tree
import PolicyGate.Proofs.Change.RoundTrip
import PolicyGate.Proofs.Scan.Selection
import PolicyGate.Proofs.Toml.LongStrings
import PolicyGate.Proofs.Toml.Integers
import PolicyGate.Proofs.Policy.Overrides
import PolicyGate.Proofs.Toml.Values
import PolicyGate.Proofs.Toml.Lines
import PolicyGate.Proofs.Toml.Expressible
import PolicyGate.Proofs.Workspace.FirstMatch
import PolicyGate.Proofs.Pattern.PlainText
import PolicyGate.Proofs.Pattern.Size
import PolicyGate.Proofs.Evidence.Compilation
import PolicyGate.Proofs.Json.Grammar
import PolicyGate.Proofs.Json.Reading
import PolicyGate.Proofs.Json.Strings
import PolicyGate.Proofs.Json.Skipping
import PolicyGate.Proofs.Json.Records
import PolicyGate.Proofs.Json.Writing
import PolicyGate.Proofs.PullRequest.Payload
