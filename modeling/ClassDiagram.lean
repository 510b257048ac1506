import ClassDiagram.Command.Files
import ClassDiagram.Command.Invocation
import ClassDiagram.Command.Options
import ClassDiagram.Command.Report
import ClassDiagram.Command.Run
import ClassDiagram.Decimal.Layout
import ClassDiagram.Decimal.Shortest
import ClassDiagram.Diagram.Document
import ClassDiagram.Diagram.Edge
import ClassDiagram.Diagram.MemberLine
import ClassDiagram.Diagram.Selection
import ClassDiagram.Embed.RawLiteral
import ClassDiagram.Embed.SourceModule
import ClassDiagram.Firsts
import ClassDiagram.Json.Basic
import ClassDiagram.Json.Cause
import ClassDiagram.Json.Decoder
import ClassDiagram.Json.Printer
import ClassDiagram.Json.Reader
import ClassDiagram.Json.Reader.Number
import ClassDiagram.Json.Reader.Record
import ClassDiagram.Json.Reader.Skip
import ClassDiagram.Json.Reader.String
import ClassDiagram.Json.Reader.Value
import ClassDiagram.Json.Shape
import ClassDiagram.Json.Source
import ClassDiagram.Log.Directive
import ClassDiagram.Log.Gate
import ClassDiagram.Log.Layout
import ClassDiagram.Log.Narration
import ClassDiagram.Log.Node
import ClassDiagram.Log.Threshold
import ClassDiagram.Main
import ClassDiagram.Pattern.Bracket
import ClassDiagram.Pattern.CharSet
import ClassDiagram.Pattern.Escape
import ClassDiagram.Pattern.Expr
import ClassDiagram.Pattern.Flags
import ClassDiagram.Pattern.Program
import ClassDiagram.Pattern.Reading
import ClassDiagram.Pattern.Search
import ClassDiagram.Proofs.Json.Runs
import ClassDiagram.Proofs.Json.Spelling
import ClassDiagram.Proofs.Json.Writing
import ClassDiagram.Proofs.Text.Position
import ClassDiagram.Proofs.Text.Utf8
import ClassDiagram.Symbol.Build
import ClassDiagram.Symbol.Catalog
import ClassDiagram.Symbol.Declaration
import ClassDiagram.Symbol.Decoding
import ClassDiagram.Symbol.Encoding
import ClassDiagram.Symbol.Graph
import ClassDiagram.Symbol.Kind
import ClassDiagram.Symbol.Load
import ClassDiagram.Symbol.LoadError
import ClassDiagram.Symbol.MemberDecoding
import ClassDiagram.Symbol.TypeRefs
import ClassDiagram.Symbol.Visibility
import ClassDiagram.Text.Alphanumeric
import ClassDiagram.Text.Blank
import ClassDiagram.Text.Lines
import ClassDiagram.Text.Position
import ClassDiagram.Text.Quoted
import ClassDiagram.Text.Ranges
import ClassDiagram.Text.Shapeless
import ClassDiagram.Text.Terminal
import ClassDiagram.Text.Utf8
import ClassDiagram.Proofs.Json.StringReading
import ClassDiagram.Proofs.Json.Acceptance
import ClassDiagram.Proofs.Json.Decoding
import ClassDiagram.Proofs.Symbol.RoundTrip
import ClassDiagram.Proofs.Symbol.GraphRuns
import ClassDiagram.Proofs.Diagram.Drawn
import ClassDiagram.Proofs.Diagram.Reduction
import ClassDiagram.Proofs.Diagram.Narrowing
import ClassDiagram.Proofs.Diagram.Hiding
import ClassDiagram.Proofs.Symbol.Lookup
import ClassDiagram.Proofs.Embed.RawLiteral
import ClassDiagram.Proofs.Embed.SourceModule
import ClassDiagram.Proofs.Embed.SourceText
import ClassDiagram.Proofs.Diagram.Reading
import ClassDiagram.Proofs.Diagram.Omission
import ClassDiagram.Proofs.Json.Description
import ClassDiagram.Proofs.Symbol.Description
import ClassDiagram.Proofs.Json.Sources
import ClassDiagram.Proofs.Json.Programs
import ClassDiagram.Proofs.Json.Pairings
import ClassDiagram.Proofs.Json.LockStep
import ClassDiagram.Proofs.Json.CutShort
import ClassDiagram.Proofs.Symbol.Loading
import ClassDiagram.Proofs.Diagram.Order
import ClassDiagram.Proofs.Diagram.Growth
import ClassDiagram.Proofs.Json.Places
import ClassDiagram.Proofs.Diagram.Rearrangement
import ClassDiagram.Proofs.Diagram.Renaming
import ClassDiagram.Proofs.Command.Inspection
import ClassDiagram.Proofs.Command.Files
import ClassDiagram.Proofs.Command.Effect
import ClassDiagram.Proofs.Symbol.Validation
import ClassDiagram.Proofs.Command.TaskArguments
