import TemplateJsx.Command.Line
import TemplateJsx.Command.Run
import TemplateJsx.Component.Module
import TemplateJsx.Component.Name
import TemplateJsx.Config.Basic
import TemplateJsx.Config.Parse
import TemplateJsx.Diagnostic.Kind
import TemplateJsx.Document.Cursor
import TemplateJsx.Document.Directive
import TemplateJsx.Document.Layout
import TemplateJsx.Document.Mark
import TemplateJsx.Document.Node
import TemplateJsx.Document.Reading
import TemplateJsx.Document.Scalar
import TemplateJsx.Document.ScalarText
import TemplateJsx.Document.Timestamp
import TemplateJsx.Document.Token
import TemplateJsx.Document.Tree
import TemplateJsx.Jsx.Basic
import TemplateJsx.Jsx.MarkupText
import TemplateJsx.Jsx.Path
import TemplateJsx.Jsx.Print
import TemplateJsx.Jsx.Quote
import TemplateJsx.Main
import TemplateJsx.Number.Basic
import TemplateJsx.Number.Integer
import TemplateJsx.Number.Printer
import TemplateJsx.Number.Reader
import TemplateJsx.Project.Compile
import TemplateJsx.Project.FileTree
import TemplateJsx.Project.Path
import TemplateJsx.Project.Template
import TemplateJsx.Proofs.Acceptance
import TemplateJsx.Proofs.Base64
import TemplateJsx.Proofs.Blame
import TemplateJsx.Proofs.BraceRuns
import TemplateJsx.Proofs.CamelCase
import TemplateJsx.Proofs.Comments
import TemplateJsx.Proofs.Comparison
import TemplateJsx.Proofs.ComponentNames
import TemplateJsx.Proofs.Decoding
import TemplateJsx.Proofs.DottedPaths
import TemplateJsx.Proofs.Encoding
import TemplateJsx.Proofs.Erasure
import TemplateJsx.Proofs.EventModifiers
import TemplateJsx.Proofs.FunctionBodies
import TemplateJsx.Proofs.Grammar
import TemplateJsx.Proofs.Interpolation.Addition
import TemplateJsx.Proofs.Interpolation.Concatenation
import TemplateJsx.Proofs.Interpolation.NumberText
import TemplateJsx.Proofs.Interpolation.TextGrowth
import TemplateJsx.Proofs.KeyOrder
import TemplateJsx.Proofs.ListFields
import TemplateJsx.Proofs.Literals
import TemplateJsx.Proofs.MarkupText
import TemplateJsx.Proofs.MemberPaths
import TemplateJsx.Proofs.NamedArguments
import TemplateJsx.Proofs.Nesting
import TemplateJsx.Proofs.NumberAccess
import TemplateJsx.Proofs.Numeral
import TemplateJsx.Proofs.NumeralReading
import TemplateJsx.Proofs.PathForms
import TemplateJsx.Proofs.PointedNumeral
import TemplateJsx.Proofs.Project.Compilation
import TemplateJsx.Proofs.Project.Exactness
import TemplateJsx.Proofs.Project.Idempotence
import TemplateJsx.Proofs.Project.ModuleNames
import TemplateJsx.Proofs.Project.Paths
import TemplateJsx.Proofs.Project.Tree
import TemplateJsx.Proofs.Project.Walk
import TemplateJsx.Proofs.Reading.Inverse
import TemplateJsx.Proofs.References
import TemplateJsx.Proofs.Rendering.Meaning
import TemplateJsx.Proofs.Rendering.Preservation
import TemplateJsx.Proofs.Replacement
import TemplateJsx.Proofs.Resolver.Agreement
import TemplateJsx.Proofs.Schema
import TemplateJsx.Proofs.Scope
import TemplateJsx.Proofs.WellFormed
import TemplateJsx.Resolve.Dialogue
import TemplateJsx.Resolve.Expression
import TemplateJsx.Resolve.Failure
import TemplateJsx.Resolve.Modifier
import TemplateJsx.Resolve.Mustache
import TemplateJsx.Resolve.Resolver
import TemplateJsx.Resolve.Rules
import TemplateJsx.Resolve.Statement
import TemplateJsx.Source.Span
import TemplateJsx.Template.Basic
import TemplateJsx.Template.Node
import TemplateJsx.Template.ReadError
import TemplateJsx.Template.Reader
import TemplateJsx.Template.Source
import TemplateJsx.Text.Base64
import TemplateJsx.Text.CaseTable
import TemplateJsx.Text.Casing
import TemplateJsx.Text.Identifier
import TemplateJsx.Text.Join
import TemplateJsx.Text.Printable
import TemplateJsx.Text.Quoted
