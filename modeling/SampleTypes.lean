import SampleTypes.Catalog.Document
import SampleTypes.Catalog.Registry
import SampleTypes.Command.Files
import SampleTypes.Command.Line
import SampleTypes.Command.Options
import SampleTypes.Command.Run
import SampleTypes.Command.Session
import SampleTypes.Console.Emoji
import SampleTypes.Console.Emoji.Table
import SampleTypes.Console.Literal
import SampleTypes.Console.Markup
import SampleTypes.Console.Style
import SampleTypes.Console.Table
import SampleTypes.Console.Wrap
import SampleTypes.Decimal
import SampleTypes.Decimal.Reading
import SampleTypes.Diagnostics
import SampleTypes.Documentation.Card
import SampleTypes.Documentation.Html
import SampleTypes.Documentation.Page
import SampleTypes.Documentation.Unchecked
import SampleTypes.Inference
import SampleTypes.Json
import SampleTypes.Json.Reader
import SampleTypes.Main
import SampleTypes.Naming.Allocator
import SampleTypes.Proofs.Basic
import SampleTypes.Proofs.Catalog.CanonicalOrder
import SampleTypes.Proofs.Catalog.Decoding
import SampleTypes.Proofs.Catalog.Demands
import SampleTypes.Proofs.Catalog.Grammar
import SampleTypes.Proofs.Catalog.Reloading
import SampleTypes.Proofs.Command.CommandLine
import SampleTypes.Proofs.Command.Complaint
import SampleTypes.Proofs.Command.ExitCode
import SampleTypes.Proofs.Command.FileTree
import SampleTypes.Proofs.Command.Invocation
import SampleTypes.Proofs.Command.Pipeline
import SampleTypes.Proofs.Command.Stages
import SampleTypes.Proofs.Command.Success
import SampleTypes.Proofs.Command.Summary
import SampleTypes.Proofs.Console.Markup
import SampleTypes.Proofs.Console.Wrap
import SampleTypes.Proofs.Documentation.Circles
import SampleTypes.Proofs.Documentation.Hierarchy
import SampleTypes.Proofs.Documentation.Highlighting
import SampleTypes.Proofs.Documentation.Illustration
import SampleTypes.Proofs.Documentation.Integrity
import SampleTypes.Proofs.Documentation.Marks
import SampleTypes.Proofs.Documentation.Tags
import SampleTypes.Proofs.Inference.BareTypes
import SampleTypes.Proofs.Inference.Bookkeeping
import SampleTypes.Proofs.Inference.CallBound
import SampleTypes.Proofs.Inference.Closure
import SampleTypes.Proofs.Inference.Containment
import SampleTypes.Proofs.Inference.Course
import SampleTypes.Proofs.Inference.DepthLimit
import SampleTypes.Proofs.Inference.Description
import SampleTypes.Proofs.Inference.Exploration
import SampleTypes.Proofs.Inference.Faithfulness
import SampleTypes.Proofs.Inference.GivenNames
import SampleTypes.Proofs.Inference.Indifference
import SampleTypes.Proofs.Inference.Renaming
import SampleTypes.Proofs.Inference.Report
import SampleTypes.Proofs.Inference.SharedContext
import SampleTypes.Proofs.Inference.Skeleton
import SampleTypes.Proofs.Inference.Stability
import SampleTypes.Proofs.Inference.TemporalTexts
import SampleTypes.Proofs.Json.RoundTrip
import SampleTypes.Proofs.Json.StringText
import SampleTypes.Proofs.Json.WrittenText
import SampleTypes.Proofs.Naming.FirstFree
import SampleTypes.Proofs.Naming.Normalization
import SampleTypes.Proofs.Naming.TypeName
import SampleTypes.Proofs.Reference.Layouts
import SampleTypes.Proofs.Reference.Matching
import SampleTypes.Proofs.Reference.ReportFile
import SampleTypes.Proofs.Sample.FirstItems
import SampleTypes.Proofs.Sample.Parts
import SampleTypes.Proofs.Sample.Signature
import SampleTypes.Proofs.Text.Cutting
import SampleTypes.Proofs.Text.Occurrences
import SampleTypes.Proofs.Text.Replacement
import SampleTypes.Proofs.Text.Stream
import SampleTypes.Proofs.TypeScript.Denotation
import SampleTypes.Proofs.TypeScript.Filling
import SampleTypes.Proofs.TypeScript.Generation
import SampleTypes.Proofs.TypeScript.Grouping
import SampleTypes.Proofs.TypeScript.Imports
import SampleTypes.Proofs.TypeScript.Literals
import SampleTypes.Proofs.TypeScript.Mentions
import SampleTypes.Proofs.TypeScript.Parts
import SampleTypes.Proofs.TypeScript.PlainReading
import SampleTypes.Proofs.TypeScript.PropertyKeys
import SampleTypes.Proofs.TypeScript.Quoting
import SampleTypes.Proofs.TypeScript.StorybookBlock
import SampleTypes.Proofs.Yaml.Assembly
import SampleTypes.Proofs.Yaml.Cursor
import SampleTypes.Proofs.Yaml.FlowTokens
import SampleTypes.Proofs.Yaml.Growth
import SampleTypes.Proofs.Yaml.JsonTokens
import SampleTypes.Proofs.Yaml.PlainText
import SampleTypes.Proofs.Yaml.QuotedText
import SampleTypes.Proofs.Yaml.Reading
import SampleTypes.Proofs.Yaml.Sampling
import SampleTypes.Reference.Load
import SampleTypes.Reference.Schema
import SampleTypes.Sample
import SampleTypes.Text.Basic
import SampleTypes.Text.Lowercase
import SampleTypes.Text.Quoted
import SampleTypes.Text.Utf8
import SampleTypes.Text.Width
import SampleTypes.Text.Word
import SampleTypes.TypeScript.Declaration
import SampleTypes.TypeScript.Source
import SampleTypes.TypeScript.TypeExpr
import SampleTypes.TypeScript.Unchecked
import SampleTypes.Value
import SampleTypes.Value.Calendar
import SampleTypes.Yaml.Cursor
import SampleTypes.Yaml.Document
import SampleTypes.Yaml.Fault
import SampleTypes.Yaml.Lines
import SampleTypes.Yaml.Property
import SampleTypes.Yaml.Resolution
import SampleTypes.Yaml.Sample
import SampleTypes.Yaml.Scalar
import SampleTypes.Yaml.Writer
