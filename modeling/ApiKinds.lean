import ApiKinds.Api.Document
import ApiKinds.Api.Reading
import ApiKinds.Api.Reference
import ApiKinds.Api.Schema
import ApiKinds.Api.Validity
import ApiKinds.Api.Writing
import ApiKinds.Catalog.Basic
import ApiKinds.Catalog.Expansion
import ApiKinds.Catalog.Reading
import ApiKinds.Catalog.Report
import ApiKinds.Catalog.Shape
import ApiKinds.Catalog.Writing
import ApiKinds.Command.Arguments
import ApiKinds.Command.Basic
import ApiKinds.Config
import ApiKinds.Decimal.Binary64
import ApiKinds.Decimal.Power
import ApiKinds.Decimal.Shortest
import ApiKinds.Decimal.Style
import ApiKinds.Dict
import ApiKinds.Failure
import ApiKinds.Files
import ApiKinds.Filter
import ApiKinds.Glob
import ApiKinds.Json.Basic
import ApiKinds.Json.Printer
import ApiKinds.Json.Record
import ApiKinds.Json.Written
import ApiKinds.Main
import ApiKinds.Path
import ApiKinds.RootKind
import ApiKinds.Source
import ApiKinds.Survey.Basic
import ApiKinds.Survey.Draft
import ApiKinds.Survey.Endpoint
import ApiKinds.Survey.Finding
import ApiKinds.Survey.Payload
import ApiKinds.Survey.View
import ApiKinds.Swagger.Document
import ApiKinds.Swagger.Reading
import ApiKinds.Swagger.TypeList
import ApiKinds.Swagger.Upgrade
import ApiKinds.Swagger.Writing
import ApiKinds.Table
import ApiKinds.Text.Basic
import ApiKinds.Text.Case
import ApiKinds.Text.CaseTable
import ApiKinds.Text.HiddenTable
import ApiKinds.Text.Quoted
import ApiKinds.Text.Wrap
import ApiKinds.Word
import ApiKinds.Yaml.Basic
import ApiKinds.Yaml.Cursor
import ApiKinds.Yaml.Lexer
import ApiKinds.Yaml.Literal
import ApiKinds.Yaml.Node
import ApiKinds.Yaml.Printer
import ApiKinds.Yaml.Reading
import ApiKinds.Yaml.Record
import ApiKinds.Yaml.Scalar
import ApiKinds.Yaml.ToJson
import ApiKinds.Yaml.Token
import ApiKinds.Proofs.Dict
import ApiKinds.Proofs.Survey.Kept
import ApiKinds.Proofs.Survey.Findings
import ApiKinds.Proofs.Survey.Drafts
import ApiKinds.Proofs.Survey.Partition
import ApiKinds.Proofs.Survey.Merging
import ApiKinds.Proofs.Survey.Frame
import ApiKinds.Proofs.Survey.Pruning
import ApiKinds.Proofs.Path
import ApiKinds.Proofs.Survey.Pairing
import ApiKinds.Proofs.Verb
import ApiKinds.Proofs.Api.Reference
import ApiKinds.Proofs.Api.Mention
import ApiKinds.Proofs.Except
import ApiKinds.Proofs.Api.Validity
import ApiKinds.Proofs.Api.Resolution
import ApiKinds.Proofs.Override
import ApiKinds.Proofs.Swagger.Upgrade
import ApiKinds.Proofs.Swagger.Parameters
import ApiKinds.Proofs.Swagger.Inlining
import ApiKinds.Proofs.Api.Schema
import ApiKinds.Proofs.Expansion.Run
import ApiKinds.Proofs.Expansion.Nesting
import ApiKinds.Proofs.Expansion.Stub
import ApiKinds.Proofs.Expansion.Constraints
import ApiKinds.Proofs.Swagger.TypeList
import ApiKinds.Proofs.Swagger.Verbatim
import ApiKinds.Proofs.Swagger.Listing
import ApiKinds.Proofs.Survey.Correspondence
import ApiKinds.Proofs.Survey.Reading
import ApiKinds.Proofs.Survey.Outline
import ApiKinds.Proofs.Survey.Transparency
import ApiKinds.Proofs.Survey.Locality
import ApiKinds.Proofs.Expansion.Origin
import ApiKinds.Proofs.Survey.Closure
import ApiKinds.Proofs.Survey.Methods
import ApiKinds.Proofs.Survey.Placement
import ApiKinds.Proofs.Source
import ApiKinds.Proofs.Survey.Precedence
import ApiKinds.Proofs.Swagger.Faults
import ApiKinds.Proofs.Swagger.Translation
import ApiKinds.Proofs.Json.Value
import ApiKinds.Proofs.Api.RoundTrip
import ApiKinds.Proofs.Swagger.RoundTrip
import ApiKinds.Proofs.Catalog.RoundTrip
import ApiKinds.Proofs.Json.Source
import ApiKinds.Proofs.Survey.RoundTrip
import ApiKinds.Proofs.Api.Extensions
import ApiKinds.Proofs.Survey.Extensions
import ApiKinds.Proofs.Survey.Lookup
import ApiKinds.Proofs.Survey.Slashes
import ApiKinds.Proofs.Swagger.Pointer
import ApiKinds.Proofs.Survey.Parameters
import ApiKinds.Proofs.Survey.Results
import ApiKinds.Proofs.Survey.Parents
import ApiKinds.Proofs.Survey.Endpoints
import ApiKinds.Proofs.Glob.Pieces
import ApiKinds.Proofs.Glob.Expression
import ApiKinds.Proofs.Glob.Segments
import ApiKinds.Proofs.Word
import ApiKinds.Proofs.Spelling
import ApiKinds.Proofs.Survey.Filtering
import ApiKinds.Proofs.Expansion.Reentry
import ApiKinds.Proofs.Wrap
import ApiKinds.Proofs.Table
import ApiKinds.Proofs.Catalog.Literal
import ApiKinds.Proofs.RootKind
import ApiKinds.Proofs.Api.Denotation
import ApiKinds.Proofs.Swagger.Projection
import ApiKinds.Proofs.Yaml.ToJson
import ApiKinds.Proofs.BasePath
