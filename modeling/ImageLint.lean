import ImageLint.Analysis
import ImageLint.BuildScript
import ImageLint.Calendar
import ImageLint.Catalog
import ImageLint.CommandLine
import ImageLint.Config.Basic
import ImageLint.Config.File
import ImageLint.Config.Load
import ImageLint.Config.Problem
import ImageLint.Exclusions
import ImageLint.Explanation
import ImageLint.Facts
import ImageLint.Files
import ImageLint.Finding
import ImageLint.ImageReference
import ImageLint.Instruction
import ImageLint.Json.Basic
import ImageLint.Json.Reader
import ImageLint.Json.Writer
import ImageLint.Keyword
import ImageLint.Log
import ImageLint.Main
import ImageLint.Number.Binary64
import ImageLint.Number.Decimal
import ImageLint.Number.Integer
import ImageLint.Number.Shortest
import ImageLint.Path
import ImageLint.Pattern.Cursor
import ImageLint.Pattern.Escape
import ImageLint.Pattern.Fault
import ImageLint.Pattern.Member
import ImageLint.Pattern.Reader
import ImageLint.Pattern.Search
import ImageLint.Pattern.Tree
import ImageLint.Proofs.Appending
import ImageLint.Proofs.Arguments
import ImageLint.Proofs.BaseImageLines
import ImageLint.Proofs.Blocks
import ImageLint.Proofs.BuildTime
import ImageLint.Proofs.ByteOrderMarks
import ImageLint.Proofs.CheckedSettings
import ImageLint.Proofs.Completion
import ImageLint.Proofs.Composition
import ImageLint.Proofs.CopyFlags
import ImageLint.Proofs.CopyForms
import ImageLint.Proofs.DeclaredKeywords
import ImageLint.Proofs.Disabling
import ImageLint.Proofs.EmbeddedPatterns
import ImageLint.Proofs.Encoding
import ImageLint.Proofs.ExclusionGrowth
import ImageLint.Proofs.ExitStatus
import ImageLint.Proofs.Families
import ImageLint.Proofs.Findings
import ImageLint.Proofs.FirstLines
import ImageLint.Proofs.Folding
import ImageLint.Proofs.HumanReport
import ImageLint.Proofs.ImageWeight
import ImageLint.Proofs.Insertion
import ImageLint.Proofs.JsonListings
import ImageLint.Proofs.JsonReading
import ImageLint.Proofs.KeyByKey
import ImageLint.Proofs.Layout
import ImageLint.Proofs.Lines
import ImageLint.Proofs.Loading
import ImageLint.Proofs.Locations
import ImageLint.Proofs.LogicalLines
import ImageLint.Proofs.MachineReport
import ImageLint.Proofs.NormalRules
import ImageLint.Proofs.PackageChecks
import ImageLint.Proofs.PatternNesting
import ImageLint.Proofs.PatternReading
import ImageLint.Proofs.ReadFiles
import ImageLint.Proofs.Relaxing
import ImageLint.Proofs.Removals
import ImageLint.Proofs.Renumbering
import ImageLint.Proofs.SourceRows
import ImageLint.Proofs.StageOptions
import ImageLint.Proofs.Text
import ImageLint.Proofs.WholeRuns
import ImageLint.Report.Ansi
import ImageLint.Report.Human
import ImageLint.Report.Machine
import ImageLint.Report.Style
import ImageLint.Rules.BaseImage
import ImageLint.Rules.Commands
import ImageLint.Rules.Copies
import ImageLint.Rules.Custom
import ImageLint.Rules.Directives
import ImageLint.Rules.ExclusionFile
import ImageLint.Rules.Packages
import ImageLint.Run
import ImageLint.Source
import ImageLint.Text.Basic
import ImageLint.Text.Characters
import ImageLint.Text.Code
import ImageLint.Text.Lines
import ImageLint.Text.Names
import ImageLint.Text.Quoted
import ImageLint.Text.Utf8
import ImageLint.Unicode.Casing
import ImageLint.Unicode.Identifier
import ImageLint.Unicode.Letter
import ImageLint.Unicode.Printable
import ImageLint.Unicode.Ranges
import ImageLint.Unicode.Word
import ImageLint.Verdict
import ImageLint.Yaml.Document
import ImageLint.Yaml.Fault
import ImageLint.Yaml.Kind
import ImageLint.Yaml.Node
import ImageLint.Yaml.Place
import ImageLint.Yaml.Scalar
import ImageLint.Yaml.ScalarValue
import ImageLint.Yaml.Timestamp
import ImageLint.Yaml.Token
import ImageLint.Yaml.Value
