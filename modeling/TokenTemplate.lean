import TokenTemplate.Evaluation.Call
import TokenTemplate.Evaluation.Evaluator
import TokenTemplate.Evaluation.Expression
import TokenTemplate.Evaluation.Iteration
import TokenTemplate.Evaluation.Match
import TokenTemplate.Evaluation.Receiver
import TokenTemplate.Evaluation.Statement
import TokenTemplate.Evaluation.View
import TokenTemplate.Number.Complex
import TokenTemplate.Number.Nearest
import TokenTemplate.Number.Numeral
import TokenTemplate.Number.Rounded
import TokenTemplate.Output.Item
import TokenTemplate.Output.Layout
import TokenTemplate.Payload.Grammar
import TokenTemplate.Payload.Located
import TokenTemplate.Payload.PatternGrammar
import TokenTemplate.Payload.Reader
import TokenTemplate.Payload.Statement
import TokenTemplate.Payload.Syntax
import TokenTemplate.Payload.Token
import TokenTemplate.Proofs.Escape.Render
import TokenTemplate.Proofs.Output.Lines
import TokenTemplate.Proofs.Template.Report
import TokenTemplate.Proofs.Token.Language
import TokenTemplate.Proofs.Token.Shape
import TokenTemplate.Region
import TokenTemplate.Routine.Basic
import TokenTemplate.Routine.Encoder
import TokenTemplate.Run.Depth
import TokenTemplate.Run.Environment
import TokenTemplate.Run.Routine
import TokenTemplate.Settings
import TokenTemplate.Source.Diagnostic
import TokenTemplate.Source.Position
import TokenTemplate.SyntaxError
import TokenTemplate.Template.Body
import TokenTemplate.Template.Construct
import TokenTemplate.Template.Interpolation
import TokenTemplate.Template.Render
import TokenTemplate.Text.Escape
import TokenTemplate.Text.Gap
import TokenTemplate.Text.Line
import TokenTemplate.Text.Quoted
import TokenTemplate.Text.Search
import TokenTemplate.Token.Assembly
import TokenTemplate.Token.Basic
import TokenTemplate.Token.Lexeme
import TokenTemplate.Unicode.Alphanumeric
import TokenTemplate.Unicode.Blank
import TokenTemplate.Unicode.Casing
import TokenTemplate.Unicode.Digit
import TokenTemplate.Unicode.Identifier
import TokenTemplate.Unicode.Name
import TokenTemplate.Unicode.Name.Alias
import TokenTemplate.Unicode.Name.Asian
import TokenTemplate.Unicode.Name.EastAsian
import TokenTemplate.Unicode.Name.European
import TokenTemplate.Unicode.Name.Extended
import TokenTemplate.Unicode.Name.Historic
import TokenTemplate.Unicode.Name.Ideographic
import TokenTemplate.Unicode.Name.Indic
import TokenTemplate.Unicode.Name.MiddleEastern
import TokenTemplate.Unicode.Name.Notational
import TokenTemplate.Unicode.Name.Pictographs
import TokenTemplate.Unicode.Name.Run
import TokenTemplate.Unicode.Name.Symbols
import TokenTemplate.Unicode.Printable
import TokenTemplate.Unicode.Ranges
import TokenTemplate.Value.Action
import TokenTemplate.Value.Arithmetic
import TokenTemplate.Value.Basic
import TokenTemplate.Value.Compare
import TokenTemplate.Value.Fault
import TokenTemplate.Value.Filling
import TokenTemplate.Value.Hash
import TokenTemplate.Value.Sequence
import TokenTemplate.Value.Shown
import TokenTemplate.Value.SlotTable
import TokenTemplate.Value.Sort
import TokenTemplate.Value.Store
import TokenTemplate.Value.TextMethod
import TokenTemplate.Proofs.Escape.Stable
import TokenTemplate.Proofs.Grammar.Body
import TokenTemplate.Proofs.Grammar.Payload
import TokenTemplate.Proofs.Routine.Bare
import TokenTemplate.Proofs.Respacing.Row
import TokenTemplate.Proofs.Respacing.Block
import TokenTemplate.Proofs.Respacing.Region
import TokenTemplate.Proofs.Respacing.Piece
import TokenTemplate.Proofs.Respacing.Payload
import TokenTemplate.Proofs.Respacing.Body
import TokenTemplate.Proofs.Respacing.Routine
import TokenTemplate.Proofs.Template.Coverage
import TokenTemplate.Proofs.Template.Calls
import TokenTemplate.Proofs.Template.Dependence
import TokenTemplate.Proofs.Template.Depth
import TokenTemplate.Proofs.Template.Interchange
import TokenTemplate.Proofs.Grammar.Recognition
import TokenTemplate.Proofs.Run.Visible
import TokenTemplate.Proofs.Run.Balance
import TokenTemplate.Proofs.Run.Splice
import TokenTemplate.Proofs.Veil.Action
import TokenTemplate.Proofs.Veil.Call
import TokenTemplate.Proofs.Veil.Expression
import TokenTemplate.Proofs.Veil.Match
import TokenTemplate.Proofs.Grammar.Truncation
import TokenTemplate.Proofs.Routine.Record
import TokenTemplate.Proofs.Run.Turn
import TokenTemplate.Proofs.Source.Line
import TokenTemplate.Proofs.Template.Excerpt
import TokenTemplate.Proofs.Template.Inline
import TokenTemplate.Proofs.Template.Locality
import TokenTemplate.Proofs.Template.Payload
import TokenTemplate.Proofs.Run.Growth
import TokenTemplate.Proofs.Veil.Append
import TokenTemplate.Proofs.Run.Interpolation
import TokenTemplate.Proofs.Routine.Calls
import TokenTemplate.Proofs.Run.Dispatch
import TokenTemplate.Proofs.Payload.CaseHead
import TokenTemplate.Proofs.Run.Clean
import TokenTemplate.Proofs.Template.Literal
import TokenTemplate.Proofs.Run.Capture
import TokenTemplate.Proofs.Run.Closed
