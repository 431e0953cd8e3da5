import Layering.Analysis.Analyzer
import Layering.Analysis.Events
import Layering.Analysis.Validator
import Layering.Cli.Command
import Layering.Cli.Items
import Layering.Cli.Outcome
import Layering.Cli.Run
import Layering.Cli.Switch
import Layering.Config.Basic
import Layering.Config.Decoding
import Layering.Config.Encoding
import Layering.Config.Fault
import Layering.Config.Loading
import Layering.Error
import Layering.Family
import Layering.FileSystem
import Layering.Glob
import Layering.Json.Basic
import Layering.Json.Printer
import Layering.Json.Reader
import Layering.Log
import Layering.Main
import Layering.Naming.Pattern
import Layering.Naming.Rules
import Layering.Number.Binary64
import Layering.Options
import Layering.Path
import Layering.PathFilter
import Layering.Policy.Basic
import Layering.Policy.Clean
import Layering.Policy.Custom
import Layering.Policy.Ddd
import Layering.Policy.Hexagonal
import Layering.Proofs.Analysis.Cancellation
import Layering.Proofs.Analysis.CustomRules
import Layering.Proofs.Analysis.Loading
import Layering.Proofs.Analysis.Schedule
import Layering.Proofs.Analysis.Validation
import Layering.Proofs.Cli.ExitCode
import Layering.Proofs.Config.Acceptance
import Layering.Proofs.Config.Decoding
import Layering.Proofs.Config.Encoding
import Layering.Proofs.Config.NamingRules
import Layering.Proofs.Config.Normalizing
import Layering.Proofs.Config.Overriding
import Layering.Proofs.Config.Precedence
import Layering.Proofs.Config.Reloading
import Layering.Proofs.Discovery
import Layering.Proofs.Exclusion
import Layering.Proofs.FileSystem
import Layering.Proofs.Json.Escapes
import Layering.Proofs.Json.Reading
import Layering.Proofs.Json.RoundTrip
import Layering.Proofs.Naming.Delimited
import Layering.Proofs.PathFilter
import Layering.Proofs.Policy.Defaults
import Layering.Proofs.Policy.Forbidden
import Layering.Proofs.Policy.Name
import Layering.Proofs.Policy.Naming
import Layering.Proofs.Policy.Spelling
import Layering.Proofs.Registry
import Layering.Proofs.Report.Annotations
import Layering.Proofs.Report.Colors
import Layering.Proofs.Report.Counters
import Layering.Proofs.Report.Formats
import Layering.Proofs.Report.Human
import Layering.Proofs.Source.Canonical
import Layering.Proofs.Source.Dependencies
import Layering.Proofs.Source.Extraction
import Layering.Proofs.Source.FirstSeen
import Layering.Proofs.Source.Interfaces
import Layering.Proofs.Source.Name
import Layering.Proofs.Source.Namespace
import Layering.Proofs.Source.Parameters
import Layering.Proofs.Source.Renaming
import Layering.Proofs.Source.Resolving
import Layering.Proofs.Source.RoundTrip
import Layering.Proofs.Source.Segments
import Layering.Proofs.Source.Statements
import Layering.Proofs.Text.Mark
import Layering.Proofs.Text.Scan
import Layering.Proofs.Violation
import Layering.Proofs.Yaml.DeepMerge
import Layering.Proofs.Yaml.Merge
import Layering.Proofs.Yaml.Same
import Layering.Proofs.Yaml.WellFormed
import Layering.Regex.Basic
import Layering.Regex.Diagnosis
import Layering.Regex.Escape
import Layering.Regex.Meaning
import Layering.Regex.Property
import Layering.Regex.Reader
import Layering.Regex.Tree
import Layering.Registry
import Layering.Report.Annotation
import Layering.Report.Basic
import Layering.Report.Document
import Layering.Report.Format
import Layering.Report.Human
import Layering.Report.Paint
import Layering.Report.Rendering
import Layering.Report.Selection
import Layering.Report.Timestamp
import Layering.Severity
import Layering.SipHash
import Layering.Source.Basic
import Layering.Source.Declaration
import Layering.Source.Dependencies
import Layering.Source.Hint
import Layering.Source.Import
import Layering.Source.Name
import Layering.Source.Statement
import Layering.Table
import Layering.Text.Blank
import Layering.Text.Category
import Layering.Text.CharSet
import Layering.Text.CodePoints
import Layering.Text.Fold
import Layering.Text.Lowercase
import Layering.Text.Quoted
import Layering.Text.Scan
import Layering.Text.Script
import Layering.Text.Utf8
import Layering.Text.Word
import Layering.Violation
import Layering.Yaml.Basic
import Layering.Yaml.Cursor
import Layering.Yaml.Lexer
import Layering.Yaml.Merge
import Layering.Yaml.Node
import Layering.Yaml.Outline
import Layering.Yaml.Printer
import Layering.Yaml.Reader
import Layering.Yaml.Scalar
import Layering.Yaml.Token
