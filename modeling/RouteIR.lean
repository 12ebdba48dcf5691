import RouteIR.Proofs.Yaml.Denotation
import RouteIR.Proofs.Yaml.Run
import RouteIR.Proofs.Yaml.Merging
import RouteIR.Proofs.Yaml.Invariant
import RouteIR.Proofs.Yaml.Evaluation
import RouteIR.Proofs.Yaml.Loaders
import RouteIR.Main
import RouteIR.World
import RouteIR.Proofs.Outcome
import RouteIR.Proofs.TypeExpr.Reachability
import RouteIR.Proofs.Decoder.Exploration
import RouteIR.Proofs.TypeExpr.Lowering
import RouteIR.Proofs.Route.Lowering
import RouteIR.Proofs.Decoder.Exactness
import RouteIR.Proofs.Decoder.Legibility
import RouteIR.Proofs.Interface.ClosedWorld
import RouteIR.Proofs.Refinement.NormalForm
import RouteIR.Proofs.Schema.Reading
import RouteIR.Proofs.Interface.WellFormed
import RouteIR.Proofs.Schema.Format
import RouteIR.Proofs.Document.Escape
import RouteIR.Proofs.Document.Legibility
import RouteIR.Proofs.Interface.Legibility
import RouteIR.Proofs.Interface.Failures
import RouteIR.Proofs.Tree.Keys
import RouteIR.Proofs.Document.Declaration
import RouteIR.Proofs.Interface.Routes
import RouteIR.Proofs.Document.Schemas
import RouteIR.Proofs.Document.Tables
import RouteIR.Proofs.Decoder.Linkage
import RouteIR.Proofs.Number.Text
import RouteIR.Proofs.Text.Quoted
import RouteIR.Proofs.Decoder.Completion
import RouteIR.Proofs.Decoder.Naming
import RouteIR.Proofs.Decoder.Aliases
import RouteIR.Proofs.Decoder.Recording
import RouteIR.Proofs.Decoder.Unfolding
import RouteIR.Proofs.Interface.Extension
import RouteIR.Proofs.Interface.Names
import RouteIR.Proofs.Document.Reordering
import RouteIR.Proofs.Decoder.Agreement
import RouteIR.Proofs.Interface.Reordering
import RouteIR.Proofs.Outcome.Agreement
import RouteIR.Proofs.TypeExpr.ComponentOrder
import RouteIR.Proofs.Document.ComponentOrder
import RouteIR.Proofs.Interface.ComponentOrder
import RouteIR.Proofs.Tree.KeyOrder
import RouteIR.Proofs.Schema.KeyOrder
import RouteIR.Proofs.Document.KeyOrder
import RouteIR.Proofs.Interface.KeyOrder
import RouteIR.Proofs.Number.Decimal
import RouteIR.Proofs.Json.Numeral
import RouteIR.Proofs.Json.Text
import RouteIR.Proofs.Json.RoundTrip
import RouteIR.Proofs.Json.Closing
import RouteIR.Proofs.Json.LongInteger
import RouteIR.Proofs.TypeExpr.Representation
import RouteIR.Proofs.Interface.RoundTrip
import RouteIR.Proofs.TypeExpr.Locality
import RouteIR.Proofs.Interface.Locality
import RouteIR.Proofs.FileSystem
import RouteIR.Proofs.World
import RouteIR.Proofs.OutputFile
import RouteIR.Proofs.OutputFile.Atomicity
import RouteIR.Proofs.OutputFile.Rendering
import RouteIR.Proofs.Output.PlainTable
import RouteIR.Proofs.TypeExpr.Description
import RouteIR.Proofs.Path
import RouteIR.Proofs.Command.Translation
import RouteIR.Proofs.Command.Inspection
import RouteIR.Proofs.Command.PlainInspection
import RouteIR.Proofs.FileSystem.Alike
import RouteIR.Proofs.World.Twins
import RouteIR.Proofs.Config
import RouteIR.Proofs.Command.Precedence
import RouteIR.Proofs.Yaml.Scanning
import RouteIR.Proofs.Yaml.Composition
import RouteIR.Proofs.Yaml.Construction
import RouteIR.Proofs.Source.Loading
import RouteIR.Proofs.Source.Strictness
import RouteIR.Proofs.Refinement.Canonicity
import RouteIR.Proofs.TypeExpr.Acceptance
import RouteIR.Proofs.Decoder.Formats
import RouteIR.Proofs.Interface.ListDecoders
import RouteIR.Proofs.Document.Parameters
import RouteIR.Proofs.Interface.PathParameters
import RouteIR.Proofs.Document.Shapes
import RouteIR.Proofs.Trace
import RouteIR.Proofs.Interface.Tracing
import RouteIR.Proofs.Schema.Location
import RouteIR.Proofs.Schema.RoundTrip
import RouteIR.Proofs.Tree.Spelling
import RouteIR.Proofs.Schema.Spelling
import RouteIR.Proofs.Document.Spelling
import RouteIR.Proofs.Interface.Spelling
import RouteIR.Proofs.TypeExpr.Resolution
import RouteIR.Proofs.Route.Template
import RouteIR.Proofs.Config.Package
import RouteIR.Proofs.Renderer
