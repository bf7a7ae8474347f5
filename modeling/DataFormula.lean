import DataFormula.Position
import DataFormula.Text.CodeRanges
import DataFormula.Text.Blank
import DataFormula.Text.Alphabetic
import DataFormula.Text.Alphanumeric
import DataFormula.Text.Unprintable
import DataFormula.Text.Quoted
import DataFormula.Number.Integer
import DataFormula.Number.Decimal
import DataFormula.Number.Binary64
import DataFormula.Number.Shortest
import DataFormula.Number.Readback
import DataFormula.Token
import DataFormula.Operator
import DataFormula.Expr
import DataFormula.SyntaxError
import DataFormula.Lexeme
import DataFormula.Lexer
import DataFormula.Grammar
import DataFormula.Cursor
import DataFormula.Parser
import DataFormula.Json
import DataFormula.Expr.Json
import DataFormula.Command.Render
import DataFormula.Command.Check
import DataFormula.Command.Arguments
import DataFormula.Command.Run
import DataFormula.Main
import DataFormula.Proofs.Grammar.Shape
import DataFormula.Proofs.Grammar.Chain
import DataFormula.Proofs.Grammar.Exactness
import DataFormula.Proofs.Grammar.Branches
import DataFormula.Proofs.Grammar.CorrectPrefix
import DataFormula.Proofs.Grammar.Sentence
import DataFormula.Proofs.Grammar.FlatNesting
import DataFormula.Proofs.Grammar.Blame
import DataFormula.Proofs.Grammar.Lookahead
import DataFormula.Proofs.Grammar.Relabelling
import DataFormula.Proofs.Lexer.Spelling
import DataFormula.Proofs.Lexer.Tiling
import DataFormula.Proofs.Lexer.Lines
import DataFormula.Proofs.Lexer.Standing
import DataFormula.Proofs.Lexer.Resuming
import DataFormula.Proofs.Command.Verdict
import DataFormula.Proofs.Command.Agreement
import DataFormula.Proofs.Command.Stream
import DataFormula.Proofs.Command.DanglingOperator
import DataFormula.Proofs.Command.AccessorChain
import DataFormula.Proofs.Lexer.Reprint
import DataFormula.Proofs.Lexer.Quoting
import DataFormula.Proofs.Expr.Readability
import DataFormula.Proofs.Json.Grammar
import DataFormula.Proofs.Json.Reader
import DataFormula.Proofs.Json.Compact
import DataFormula.Proofs.Json.Printed
import DataFormula.Proofs.Expr.JsonReading
import DataFormula.Proofs.Json.Indented
import DataFormula.Proofs.Number.Approximation
import DataFormula.Proofs.Number.Canonical
import DataFormula.Proofs.Command.Listing
import DataFormula.Proofs.Parser.Rules
import DataFormula.Proofs.Parser.Reuse
import DataFormula.Proofs.Cursor.Operations
import DataFormula.Proofs.Parser.Contract
