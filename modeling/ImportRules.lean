import ImportRules.Ascending
import ImportRules.Automaton.Basic
import ImportRules.Automaton.Search
import ImportRules.Check
import ImportRules.Command.Arguments
import ImportRules.Command.Output
import ImportRules.Command.Run
import ImportRules.Config.Basic
import ImportRules.Config.Decode
import ImportRules.Config.Document
import ImportRules.Config.Loader
import ImportRules.Cycle.Basic
import ImportRules.Cycle.Search
import ImportRules.Diagram.Basic
import ImportRules.Diagram.Line
import ImportRules.Diagram.Reader
import ImportRules.Edge
import ImportRules.Expression.Basic
import ImportRules.Expression.CharClass
import ImportRules.Expression.Escape
import ImportRules.Expression.Memory
import ImportRules.Expression.Reader
import ImportRules.Expression.Reading
import ImportRules.Extraction.Scan
import ImportRules.Extraction.Session
import ImportRules.FileTree
import ImportRules.Filter
import ImportRules.Glob
import ImportRules.Ignore.Glob
import ImportRules.Ignore.Rule
import ImportRules.Ignore.Walk
import ImportRules.Json.Basic
import ImportRules.Json.Decode
import ImportRules.Json.Printer
import ImportRules.Json.Reader
import ImportRules.Json.Token
import ImportRules.Link
import ImportRules.Log
import ImportRules.Main
import ImportRules.Node
import ImportRules.Path
import ImportRules.Projection.Basic
import ImportRules.Projection.Slice
import ImportRules.Projection.Suffix
import ImportRules.Proofs.Ascending
import ImportRules.Proofs.CacheHistory
import ImportRules.Proofs.ClosedChain
import ImportRules.Proofs.Config.Conversion
import ImportRules.Proofs.Config.Faults
import ImportRules.Proofs.Config.Loading
import ImportRules.Proofs.Cycle.Enumeration
import ImportRules.Proofs.Cycle.Freedom
import ImportRules.Proofs.Cycle.Graph
import ImportRules.Proofs.Cycle.Loop
import ImportRules.Proofs.Cycle.Order
import ImportRules.Proofs.Cycle.Tour
import ImportRules.Proofs.DependencyVerdict
import ImportRules.Proofs.Diagram.Adherence
import ImportRules.Proofs.Diagram.Drawing
import ImportRules.Proofs.Diagram.FaultPlace
import ImportRules.Proofs.Diagram.Members
import ImportRules.Proofs.Diagram.Page
import ImportRules.Proofs.Diagram.Progress
import ImportRules.Proofs.Diagram.RelationCut
import ImportRules.Proofs.Diagram.Retouching
import ImportRules.Proofs.Diagram.RoundTrip
import ImportRules.Proofs.Diagram.Sheet
import ImportRules.Proofs.Diagram.Spacing
import ImportRules.Proofs.Diagram.Spelling
import ImportRules.Proofs.Diagram.WrittenLine
import ImportRules.Proofs.EdgeGrowth
import ImportRules.Proofs.EdgeOrder
import ImportRules.Proofs.Expression.Composing
import ImportRules.Proofs.Expression.GroupNumbers
import ImportRules.Proofs.Expression.Groups
import ImportRules.Proofs.Expression.Meaning
import ImportRules.Proofs.Extraction.EdgeDump
import ImportRules.Proofs.Extraction.Exclusion
import ImportRules.Proofs.FewestSegments
import ImportRules.Proofs.FileVerdict
import ImportRules.Proofs.FirstError
import ImportRules.Proofs.Glob.Directory
import ImportRules.Proofs.Glob.Meaning
import ImportRules.Proofs.Glob.Segments
import ImportRules.Proofs.Json.RoundTrip
import ImportRules.Proofs.Json.Rows
import ImportRules.Proofs.Json.Tokens
import ImportRules.Proofs.LabelOrder
import ImportRules.Proofs.LinkPartition
import ImportRules.Proofs.NodeRow
import ImportRules.Proofs.NodeView
import ImportRules.Proofs.PathDisplay
import ImportRules.Proofs.PathNormalForm
import ImportRules.Proofs.PathSegments
import ImportRules.Proofs.Regex.Coverage
import ImportRules.Proofs.Regex.Preference
import ImportRules.Proofs.Regex.Reading
import ImportRules.Proofs.Regex.Searching
import ImportRules.Proofs.Regex.Words
import ImportRules.Proofs.RunVerdict
import ImportRules.Proofs.SliceGrammar
import ImportRules.Proofs.SliceGroup
import ImportRules.Proofs.SliceMeaning
import ImportRules.Proofs.SliceSize
import ImportRules.Proofs.SliceText
import ImportRules.Proofs.Source.AliasChoice
import ImportRules.Proofs.Source.BaseDirectory
import ImportRules.Proofs.Source.Blanking
import ImportRules.Proofs.Source.ClauseKinds
import ImportRules.Proofs.Source.ClauseReading
import ImportRules.Proofs.Source.Comments
import ImportRules.Proofs.Source.Embedding
import ImportRules.Proofs.Source.FreeForm
import ImportRules.Proofs.Source.FreeFormReading
import ImportRules.Proofs.Source.LenientJson
import ImportRules.Proofs.Source.Recognition
import ImportRules.Proofs.Source.Resolution
import ImportRules.Proofs.Source.Silence
import ImportRules.Proofs.Source.Statement
import ImportRules.Proofs.Source.StatementReading
import ImportRules.Proofs.Source.StatementText
import ImportRules.Proofs.SuffixChoice
import ImportRules.Proofs.Text.ByteOrder
import ImportRules.Proofs.Text.Lines
import ImportRules.Proofs.Text.Pieces
import ImportRules.Proofs.Text.WordBlank
import ImportRules.Record
import ImportRules.Regex.Anchor
import ImportRules.Regex.Basic
import ImportRules.Regex.Matching
import ImportRules.Regex.Place
import ImportRules.Report
import ImportRules.Rule.Adherence
import ImportRules.Rule.Basic
import ImportRules.Rule.Dependency
import ImportRules.Rule.Files
import ImportRules.Source.Aliases
import ImportRules.Source.Comments
import ImportRules.Source.Imports
import ImportRules.Source.Resolver
import ImportRules.Text.Age
import ImportRules.Text.Basic
import ImportRules.Text.Blank
import ImportRules.Text.Boundary
import ImportRules.Text.CaseFold
import ImportRules.Text.Category
import ImportRules.Text.CharSet
import ImportRules.Text.Hex
import ImportRules.Text.Lossy
import ImportRules.Text.Property
import ImportRules.Text.Reading
import ImportRules.Text.Script
import ImportRules.Text.Trait
import ImportRules.Text.Utf8
import ImportRules.Text.Word
import ImportRules.Toml.Basic
import ImportRules.Toml.Lexeme
import ImportRules.Toml.Number
import ImportRules.Toml.Reader
import ImportRules.UnitPath
import ImportRules.Violation
