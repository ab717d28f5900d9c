import Conformance.Calendar.Date
import Conformance.Calendar.Scan
import Conformance.Calendar.Timestamp
import Conformance.Check.LeafCheck
import Conformance.Check.Presence
import Conformance.Check.Walk
import Conformance.CommandLine.Arguments
import Conformance.CommandLine.Directory
import Conformance.CommandLine.Run
import Conformance.Document.Basic
import Conformance.Document.Datum
import Conformance.Document.Lowering
import Conformance.Document.Outline
import Conformance.Document.Printer
import Conformance.Document.Reader
import Conformance.Emission.Authoring
import Conformance.Emission.Error
import Conformance.Emission.Export
import Conformance.Emission.Naming
import Conformance.Emission.Nominal
import Conformance.Emission.Registry
import Conformance.Emission.Structural
import Conformance.Failure.Basic
import Conformance.Failure.Finding
import Conformance.Failure.Path
import Conformance.Failure.Template
import Conformance.Json.Printer
import Conformance.Json.Reader
import Conformance.Json.Token
import Conformance.Json.Tree
import Conformance.Main
import Conformance.Number.Basic
import Conformance.Number.Binary64
import Conformance.Number.Layout
import Conformance.Number.Literal
import Conformance.Number.Shortest
import Conformance.Program.Assembly
import Conformance.Program.Machine
import Conformance.Program.Operation
import Conformance.Proofs.Check.Judgement
import Conformance.Proofs.Schema.Tree
import Conformance.Regex.CharSet
import Conformance.Regex.Expr
import Conformance.Regex.Folding
import Conformance.Regex.Property
import Conformance.Regex.Property.Category
import Conformance.Regex.Property.Script
import Conformance.Regex.Property.Trait
import Conformance.Regex.Property.Word
import Conformance.Regex.Reader
import Conformance.Report
import Conformance.Schema.Arena
import Conformance.Schema.Bounds
import Conformance.Schema.Error
import Conformance.Schema.Leaf
import Conformance.Schema.Node
import Conformance.Schema.Pattern
import Conformance.Schema.Shape
import Conformance.Text.Alphabet
import Conformance.Text.CaseMap
import Conformance.Text.Quoted
import Conformance.Text.Ranges
import Conformance.Text.System
import Conformance.Text.Visible
import Conformance.Validator
import Conformance.Value
import Conformance.Yaml.Cursor
import Conformance.Yaml.Node
import Conformance.Yaml.Resolution
import Conformance.Yaml.Scalar
import Conformance.Yaml.Token
import Conformance.Proofs.Check.Follow
import Conformance.Proofs.Check.Acceptance
import Conformance.Proofs.Check.Relaxation
import Conformance.Proofs.Program.Layout
import Conformance.Proofs.Program.Run
import Conformance.Proofs.Program.Budget
import Conformance.Proofs.Program.Extent
import Conformance.Proofs.Program.Growth
import Conformance.Proofs.Program.Yield
import Conformance.Proofs.Program.Alternatives
import Conformance.Proofs.Program.Blocks
import Conformance.Proofs.Program.Simulation
import Conformance.Proofs.Check.Counting
import Conformance.Proofs.Program.Equivalence
import Conformance.Proofs.Program.Halting
import Conformance.Proofs.Validator
import Conformance.Proofs.EarlyFail
import Conformance.Proofs.Verdict
import Conformance.Proofs.Calls
import Conformance.Proofs.Report
import Conformance.Proofs.Text.System
import Conformance.Proofs.Listing
import Conformance.Proofs.CommandLine.Arguments
import Conformance.Proofs.CommandLine.Validation
import Conformance.Proofs.Value
import Conformance.Proofs.Places
import Conformance.Proofs.Program.Operands
import Conformance.Proofs.Program.Nesting
import Conformance.Proofs.Program.Frames
import Conformance.Proofs.Program.Safety
import Conformance.Proofs.WalkOrder
import Conformance.Proofs.Emission.Answer
import Conformance.Proofs.Emission.Steps
import Conformance.Proofs.Emission.WrittenDeclaration
import Conformance.Proofs.Emission.Tags
import Conformance.Proofs.Emission.Positions
import Conformance.Proofs.Emission.Presence
import Conformance.Proofs.Emission.Registration
import Conformance.Proofs.Emission.TypeExpression
import Conformance.Proofs.Emission.TypeToken
import Conformance.Proofs.Emission.TypeReader
import Conformance.Proofs.Emission.EmittedType
import Conformance.Proofs.Emission.Inhabitation
import Conformance.Proofs.Emission.Plan
import Conformance.Proofs.Emission.Outline
import Conformance.Proofs.Emission.Generation
import Conformance.Proofs.Emission.Sites
import Conformance.Proofs.Emission.RootName
import Conformance.Proofs.Emission.Order
import Conformance.Proofs.Numbered.Walk
import Conformance.Proofs.Numbered.Check
import Conformance.Proofs.Numbered.Assembly
import Conformance.Proofs.Numbered.Text
import Conformance.Proofs.Numbered.Nominal
import Conformance.Proofs.Schema.Unfolding
import Conformance.Proofs.Emission.Declaration
import Conformance.Proofs.Emission.Closure
import Conformance.Proofs.Json.Spelling
import Conformance.Proofs.Json.Integers
import Conformance.Proofs.Json.RoundTrip
import Conformance.Proofs.Document.Slots
import Conformance.Proofs.Document.RoundTrip
import Conformance.Proofs.Text.Delimited
import Conformance.Proofs.Emission.AuthoringParts
import Conformance.Proofs.Number.Format
import Conformance.Proofs.Number.Rounding
import Conformance.Proofs.Number.Shortest
import Conformance.Proofs.Number.Plain
import Conformance.Proofs.Emission.AuthoringLeaf
import Conformance.Proofs.Emission.AuthoringText
import Conformance.Proofs.FirstOffence
import Conformance.Proofs.Schema.Offence
import Conformance.Proofs.Schema.Finish
import Conformance.Proofs.Document.Numbering
import Conformance.Proofs.Document.Lowering
import Conformance.Proofs.Emission.Identifiers
import Conformance.Proofs.Emission.Stations
import Conformance.Proofs.Emission.Refusals
import Conformance.Proofs.Emission.Offences
import Conformance.Proofs.Text.Literal
import Conformance.Proofs.Text.Ranges
import Conformance.Proofs.Emission.FieldNames
import Conformance.Proofs.Emission.Fields
import Conformance.Proofs.Emission.DeclaredWords
import Conformance.Proofs.Emission.Requests
import Conformance.Proofs.Failure.Path
import Conformance.Proofs.Number.Order
import Conformance.Proofs.Check.IntegerRange
import Conformance.Proofs.Calendar.WrittenDate
import Conformance.Proofs.Text.Capitals
import Conformance.Proofs.Emission.VariantNames
import Conformance.Proofs.Emission.TypeLiteral
import Conformance.Proofs.Emission.TagDetection
import Conformance.Proofs.Program.Code
import Conformance.Proofs.Program.Arrangement
import Conformance.Proofs.Program.Entries
import Conformance.Proofs.Program.WellFormed
import Conformance.Proofs.Check.Appending
