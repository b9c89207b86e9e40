import LambdaCalc.Text.Blank
import LambdaCalc.Text.Digit
import LambdaCalc.Text.Quoted
import LambdaCalc.Text.Upper
import LambdaCalc.Binary64
import LambdaCalc.Binary64.Arith
import LambdaCalc.Decimal
import LambdaCalc.Number
import LambdaCalc.Numeral
import LambdaCalc.Fault
import LambdaCalc.Number.Arith
import LambdaCalc.Stack
import LambdaCalc.Token
import LambdaCalc.ReadError
import LambdaCalc.Cursor
import LambdaCalc.Token.Scanner
import LambdaCalc.Expr
import LambdaCalc.Expr.Text
import LambdaCalc.Expr.Reader
import LambdaCalc.Host
import LambdaCalc.Host.Primitives
import LambdaCalc.Host.Stock
import LambdaCalc.Value
import LambdaCalc.Eval
import LambdaCalc.Interpreter
import LambdaCalc.Inspect
import LambdaCalc.Workspace
import LambdaCalc.Log
import LambdaCalc.Settings
import LambdaCalc.Repl
import LambdaCalc.CommandLine
import LambdaCalc.Program
import LambdaCalc.Main
import LambdaCalc.Proofs.Grammar
import LambdaCalc.Proofs.Grammar.Completeness
import LambdaCalc.Proofs.Grammar.Soundness
import LambdaCalc.Proofs.Grammar.Reading
import LambdaCalc.Proofs.Environment
import LambdaCalc.Proofs.Eval.BigStep
import LambdaCalc.Proofs.Eval.Levels
import LambdaCalc.Proofs.Substitution
import LambdaCalc.Proofs.Substitution.Scope
import LambdaCalc.Proofs.Decimal.Rank
import LambdaCalc.Proofs.Decimal.Shortest
import LambdaCalc.Proofs.Numeral.ReadBack
import LambdaCalc.Proofs.Token.Scanning
import LambdaCalc.Proofs.Source
import LambdaCalc.Proofs.Eval.Limit
import LambdaCalc.Proofs.Numeral.Range
import LambdaCalc.Proofs.Eval.Invariant
import LambdaCalc.Proofs.Interpreter.Printed
import LambdaCalc.Proofs.Places
import LambdaCalc.Proofs.Eval.Visits
import LambdaCalc.Proofs.Eval.Resolution
import LambdaCalc.Proofs.Eval.FreeNames
import LambdaCalc.Proofs.Eval.Renaming
import LambdaCalc.Proofs.Interpreter.Outcome
import LambdaCalc.Proofs.Grammar.Prefixes
import LambdaCalc.Proofs.Reader.Alike
import LambdaCalc.Proofs.Reader.Refusal
import LambdaCalc.Proofs.Reader.Location
import LambdaCalc.Proofs.Reader.Canonical
import LambdaCalc.Proofs.Interpreter.Default
import LambdaCalc.Proofs.Repl.Line
import LambdaCalc.Proofs.Program
import LambdaCalc.Proofs.Token.Layout
import LambdaCalc.Proofs.Token.Segments
import LambdaCalc.Proofs.Repl.Session
import LambdaCalc.Proofs.Reader.Message
import LambdaCalc.Proofs.Interpreter.Message
import LambdaCalc.Proofs.Repl.Answer
import LambdaCalc.Proofs.Reader.Relocation
import LambdaCalc.Proofs.Token.Joining
import LambdaCalc.Proofs.Numeral.Recognition
import LambdaCalc.Proofs.Numeral.Denotation
import LambdaCalc.Proofs.Environment.Overriding
import LambdaCalc.Proofs.Text.Told
import LambdaCalc.Proofs.Tree.Lines
import LambdaCalc.Proofs.Tree.Recovery
import LambdaCalc.Proofs.Cursor
