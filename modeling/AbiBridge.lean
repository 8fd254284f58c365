import AbiBridge.CType.Basic
import AbiBridge.CType.Declarator
import AbiBridge.CType.Identifier
import AbiBridge.CType.Primitive
import AbiBridge.CType.Resolve
import AbiBridge.CType.Resolver
import AbiBridge.CType.Spelling
import AbiBridge.CType.Token
import AbiBridge.Callback.Choice
import AbiBridge.Callback.Shim
import AbiBridge.Command.Arguments
import AbiBridge.Command.Basic
import AbiBridge.Command.Help
import AbiBridge.Command.Run
import AbiBridge.Config.Basic
import AbiBridge.Config.Read
import AbiBridge.Config.Validate
import AbiBridge.Config.Write
import AbiBridge.Constant.Decimal
import AbiBridge.Constant.Enumerators
import AbiBridge.Constant.Expression
import AbiBridge.Constant.Integer
import AbiBridge.Constant.Quoted
import AbiBridge.Descriptor.Basic
import AbiBridge.Descriptor.Index
import AbiBridge.Descriptor.Read
import AbiBridge.Descriptor.Write
import AbiBridge.Dictionary
import AbiBridge.FileSystem.Basic
import AbiBridge.FileSystem.Tree
import AbiBridge.Generate.Constants
import AbiBridge.Generate.Handle
import AbiBridge.Generate.Output
import AbiBridge.Generate.Progress
import AbiBridge.Generate.Prune
import AbiBridge.Generate.Report
import AbiBridge.Generate.Run
import AbiBridge.Generate.Scope
import AbiBridge.Generate.Structs
import AbiBridge.Issue
import AbiBridge.Json.Basic
import AbiBridge.Json.Decode
import AbiBridge.Json.Print
import AbiBridge.Json.Scan
import AbiBridge.Layout.PlatformNumber
import AbiBridge.Layout.Struct
import AbiBridge.Main
import AbiBridge.Module.Basic
import AbiBridge.Module.Item
import AbiBridge.Module.Render
import AbiBridge.Module.Signature
import AbiBridge.Module.Target
import AbiBridge.Name
import AbiBridge.Param.BufferLabel
import AbiBridge.Param.Role
import AbiBridge.Path
import AbiBridge.Pattern.Basic
import AbiBridge.Pattern.Language
import AbiBridge.Pattern.Read
import AbiBridge.Payload.Basic
import AbiBridge.Payload.Decode
import AbiBridge.Payload.Disagreement
import AbiBridge.Payload.Scalar
import AbiBridge.Project.Basic
import AbiBridge.Proofs.CType.Canonical
import AbiBridge.Proofs.CType.Declarator
import AbiBridge.Proofs.CType.Denoted
import AbiBridge.Proofs.CType.Mentions
import AbiBridge.Proofs.CType.Part
import AbiBridge.Proofs.CType.PlatformWidth
import AbiBridge.Proofs.CType.PointerForm
import AbiBridge.Proofs.CType.Qualifier
import AbiBridge.Proofs.CType.Reading
import AbiBridge.Proofs.CType.Resolved
import AbiBridge.Proofs.CType.RoundTrip
import AbiBridge.Proofs.CType.Separator
import AbiBridge.Proofs.CType.Spacing
import AbiBridge.Proofs.CType.Tokens
import AbiBridge.Proofs.CType.WellFormed
import AbiBridge.Proofs.Callback.Aliases
import AbiBridge.Proofs.Callback.DeniedCases
import AbiBridge.Proofs.Callback.Partition
import AbiBridge.Proofs.Callback.Variants
import AbiBridge.Proofs.Constant.Decimal
import AbiBridge.Proofs.Constant.EnumeratorLiteral
import AbiBridge.Proofs.Constant.Enumerators
import AbiBridge.Proofs.Constant.FloatLiteral
import AbiBridge.Proofs.Constant.Grammar
import AbiBridge.Proofs.Constant.IntegerLiteral
import AbiBridge.Proofs.Constant.Literal
import AbiBridge.Proofs.Constant.Overflow
import AbiBridge.Proofs.Constant.Spelling
import AbiBridge.Proofs.Constant.StringLiteral
import AbiBridge.Proofs.Constant.Value
import AbiBridge.Proofs.Descriptor.ArrayDecay
import AbiBridge.Proofs.Descriptor.Encoding
import AbiBridge.Proofs.Descriptor.Extension
import AbiBridge.Proofs.Descriptor.Index
import AbiBridge.Proofs.Descriptor.NestedEnums
import AbiBridge.Proofs.Descriptor.Order
import AbiBridge.Proofs.Descriptor.TypedefWalk
import AbiBridge.Proofs.Dictionary
import AbiBridge.Proofs.Generate.Agreement
import AbiBridge.Proofs.Generate.ArrayParams
import AbiBridge.Proofs.Generate.ByValue
import AbiBridge.Proofs.Generate.CallbackUnion
import AbiBridge.Proofs.Generate.Claimants
import AbiBridge.Proofs.Generate.Closed
import AbiBridge.Proofs.Generate.Closure
import AbiBridge.Proofs.Generate.Defaults
import AbiBridge.Proofs.Generate.Diagnostics
import AbiBridge.Proofs.Generate.Drafts
import AbiBridge.Proofs.Generate.Faults
import AbiBridge.Proofs.Generate.LeftOut
import AbiBridge.Proofs.Generate.Methods
import AbiBridge.Proofs.Generate.OrderIndependence
import AbiBridge.Proofs.Generate.Prune
import AbiBridge.Proofs.Generate.Removals
import AbiBridge.Proofs.Generate.Reporting
import AbiBridge.Proofs.Generate.Stages
import AbiBridge.Proofs.Generate.Survival
import AbiBridge.Proofs.Generate.TypeNames
import AbiBridge.Proofs.Generate.Wrappers
import AbiBridge.Proofs.Json.Codec
import AbiBridge.Proofs.Json.Record
import AbiBridge.Proofs.Json.Word
import AbiBridge.Proofs.Layout.Alignment
import AbiBridge.Proofs.Layout.Reconciled
import AbiBridge.Proofs.Layout.Table
import AbiBridge.Proofs.Module.DecodingCases
import AbiBridge.Proofs.Module.Definitions
import AbiBridge.Proofs.Module.Evaluation
import AbiBridge.Proofs.Module.FieldNumbers
import AbiBridge.Proofs.Module.Lines
import AbiBridge.Proofs.Module.NumberCases
import AbiBridge.Proofs.Module.ParamNames
import AbiBridge.Proofs.Name
import AbiBridge.Proofs.Param.FirstFit
import AbiBridge.Proofs.Param.Label
import AbiBridge.Proofs.Param.NamedCount
import AbiBridge.Proofs.Param.Offered
import AbiBridge.Proofs.Param.Pairing
import AbiBridge.Proofs.Param.Serving
import AbiBridge.Proofs.Payload.Comparison
import AbiBridge.Proofs.Payload.DecoderAgreement
import AbiBridge.Proofs.Payload.Disagreements
import AbiBridge.Proofs.Result
import AbiBridge.Proofs.Text.Blank
import AbiBridge.Proofs.Text.Block
import AbiBridge.Proofs.Text.Numeral
import AbiBridge.Text.Blank
import AbiBridge.Text.CaseFold
import AbiBridge.Text.DecimalDigit
import AbiBridge.Text.Quotation
import AbiBridge.Text.Ranges
import AbiBridge.Text.Search
import AbiBridge.Text.WordChar
import AbiBridge.Toml.Moment
import AbiBridge.Toml.Print
import AbiBridge.Toml.Read
import AbiBridge.Toml.Table
import AbiBridge.Word
