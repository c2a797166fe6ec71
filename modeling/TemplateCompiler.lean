import TemplateCompiler.Text.CodePoints
import TemplateCompiler.Text.Surrogate
import TemplateCompiler.Text.Letters
import TemplateCompiler.Text.Basic
import TemplateCompiler.Decimal
import TemplateCompiler.Moment
import TemplateCompiler.Text.Printable
import TemplateCompiler.Text.Quoted
import TemplateCompiler.Value
import TemplateCompiler.SlotOrder
import TemplateCompiler.Failure
import TemplateCompiler.Encoding.Step
import TemplateCompiler.Encoding.Base64
import TemplateCompiler.Encoding.SingleByte
import TemplateCompiler.Encoding.Utf8
import TemplateCompiler.Encoding.Utf16
import TemplateCompiler.Encoding.Utf32
import TemplateCompiler.Encoding.Basic
import TemplateCompiler.Encoding.Source
import TemplateCompiler.FilePath
import TemplateCompiler.FileTree
import TemplateCompiler.Model.ImportSet
import TemplateCompiler.Model.Statement
import TemplateCompiler.Model.Basic
import TemplateCompiler.Diagnostic
import TemplateCompiler.Template.Group
import TemplateCompiler.Template.Implicit
import TemplateCompiler.Template.Segment
import TemplateCompiler.Template.Reader
import TemplateCompiler.Template.Statements
import TemplateCompiler.Template.Unit
import TemplateCompiler.Text.Case
import TemplateCompiler.Settings
import TemplateCompiler.Directive
import TemplateCompiler.Language.Basic
import TemplateCompiler.Customization.Hooks
import TemplateCompiler.Language.Spelling
import TemplateCompiler.Language.CSharp
import TemplateCompiler.Language.VisualBasic
import TemplateCompiler.Language.Render
import TemplateCompiler.Text.Integer
import TemplateCompiler.Metrics
import TemplateCompiler.Pass
import TemplateCompiler.Generator
import TemplateCompiler.Customization.Chain
import TemplateCompiler.Customization.Pragmas
import TemplateCompiler.Customization.Basic
import TemplateCompiler.Customization.Build
import TemplateCompiler.Shape
import TemplateCompiler.Profile
import TemplateCompiler.Yaml.Cursor
import TemplateCompiler.Yaml.Scalar
import TemplateCompiler.Yaml.Token
import TemplateCompiler.Yaml.Lexer
import TemplateCompiler.Yaml.Tag
import TemplateCompiler.Yaml.Timestamp
import TemplateCompiler.Yaml.Number
import TemplateCompiler.Yaml.Graph
import TemplateCompiler.Yaml.Node
import TemplateCompiler.Yaml.Construct
import TemplateCompiler.Registry
import TemplateCompiler.Workspace
import TemplateCompiler.Session
import TemplateCompiler.CommandLine
import TemplateCompiler.Main
import TemplateCompiler.Json.Scalar
import TemplateCompiler.Json.Reader
import TemplateCompiler.Http.Body
import TemplateCompiler.Http.Route
import TemplateCompiler.Http.Service
import TemplateCompiler.Json.Printer
import TemplateCompiler.Json.Plain
import TemplateCompiler.Proofs.Pass.Ending
import TemplateCompiler.Proofs.Session.Basic
import TemplateCompiler.Proofs.Session.Reports
import TemplateCompiler.Proofs.Customization.Renewal
import TemplateCompiler.Proofs.Session.Independence
import TemplateCompiler.Proofs.Text.Trim
import TemplateCompiler.Proofs.Template.Closing
import TemplateCompiler.Proofs.Template.Division
import TemplateCompiler.Proofs.Template.Grouping
import TemplateCompiler.Proofs.Template.Scan
import TemplateCompiler.Proofs.Template.Writing
import TemplateCompiler.Proofs.Template.Escaping
import TemplateCompiler.Proofs.Registry.Entries
import TemplateCompiler.Proofs.Registry.Loading
import TemplateCompiler.Proofs.Customization.Steps
import TemplateCompiler.Proofs.Language.Rendering
import TemplateCompiler.Proofs.Customization.Demands
import TemplateCompiler.Proofs.Customization.Workable
import TemplateCompiler.Proofs.Registry.Soundness
import TemplateCompiler.Proofs.Pass.Success
import TemplateCompiler.Proofs.Language.Quoting
import TemplateCompiler.Proofs.Language.Reading
import TemplateCompiler.Proofs.Language.Statements
import TemplateCompiler.Proofs.Language.Layout
import TemplateCompiler.Proofs.Language.RoundTrip
import TemplateCompiler.Proofs.Outcome
import TemplateCompiler.Proofs.Template.Location
import TemplateCompiler.Proofs.Encoding.Forms
import TemplateCompiler.Proofs.Encoding.Marks
import TemplateCompiler.Proofs.Customization.Declared
import TemplateCompiler.Proofs.Customization.Integrity
import TemplateCompiler.Proofs.Customization.Ordering
import TemplateCompiler.Proofs.Customization.Parts
import TemplateCompiler.Proofs.Http.Accounting
import TemplateCompiler.Proofs.Customization.Pragmas
import TemplateCompiler.Proofs.Language.Relocation
import TemplateCompiler.Proofs.Pass.Relocation
import TemplateCompiler.Proofs.Template.Returns
import TemplateCompiler.Ensemble
import TemplateCompiler.Proofs.Ensemble.Balance
import TemplateCompiler.Proofs.Ensemble.Accounting
import TemplateCompiler.Proofs.Ensemble.Session
import TemplateCompiler.Proofs.Language.CSharpLiteral
import TemplateCompiler.Proofs.Language.VisualBasicLiteral
import TemplateCompiler.Proofs.Language.Verbatim
import TemplateCompiler.Proofs.Pass.Wording
import TemplateCompiler.Proofs.Http.Answers
import TemplateCompiler.Proofs.CommandLine.Delivery
import TemplateCompiler.Proofs.Http.Agreement
import TemplateCompiler.Proofs.Http.Bodies
import TemplateCompiler.Proofs.Text.Position
import TemplateCompiler.Proofs.Template.Kinds
import TemplateCompiler.Proofs.Template.Order
import TemplateCompiler.Proofs.Template.Preamble
import TemplateCompiler.Proofs.Template.Depth
import TemplateCompiler.Proofs.Template.Expression
import TemplateCompiler.Proofs.Encoding.Accepted
import TemplateCompiler.Proofs.Encoding.Lossless
import TemplateCompiler.Proofs.Customization.Nesting
import TemplateCompiler.Proofs.Customization.PragmaLines
import TemplateCompiler.Proofs.Customization.Changes
import TemplateCompiler.Proofs.Pass.Arrangement
import TemplateCompiler.Proofs.Pass.Standalone
import TemplateCompiler.Proofs.Model.Imports
import TemplateCompiler.Proofs.Model.TypeName
import TemplateCompiler.Proofs.Pass.Rendering
import TemplateCompiler.Proofs.Pass.Naming
import TemplateCompiler.Proofs.Text.Order
import TemplateCompiler.Proofs.Customization.Building
import TemplateCompiler.Proofs.Registry.Listing
import TemplateCompiler.Proofs.Http.Profiles
import TemplateCompiler.Proofs.Model.Membership
import TemplateCompiler.Proofs.Text.Case
import TemplateCompiler.Proofs.Customization.Stripping
import TemplateCompiler.Proofs.Metrics.Requests
import TemplateCompiler.Proofs.Settings
import TemplateCompiler.Proofs.Template.Bracketed
import TemplateCompiler.Proofs.Template.Offset
