import FormulaGrid.Text.Blank
import FormulaGrid.Text.Word
import FormulaGrid.Text.Quoted
import FormulaGrid.Cell.Column
import FormulaGrid.Cell.Ref
import FormulaGrid.Number.Decimal
import FormulaGrid.Number.Shortest
import FormulaGrid.Number.Written
import FormulaGrid.Arith.Token
import FormulaGrid.Arith.Value
import FormulaGrid.Formula.Aggregate
import FormulaGrid.Formula.Evaluation
import FormulaGrid.Sheet.Basic
import FormulaGrid.Command.Basic
import FormulaGrid.Document.Basic
import FormulaGrid.Document.Operation
import FormulaGrid.Document.Render
import FormulaGrid.Command.Run
import FormulaGrid.Toml.Text
import FormulaGrid.Toml.Value
import FormulaGrid.Toml.Document
import FormulaGrid.Settings.Decode
import FormulaGrid.Settings.Load
import FormulaGrid.Main
import FormulaGrid.Proofs.Arith.Grammar
import FormulaGrid.Proofs.Arith.Tokens
import FormulaGrid.Proofs.Arith.Complete
import FormulaGrid.Proofs.Arith.Meaning
import FormulaGrid.Proofs.Number.Double
import FormulaGrid.Proofs.Number.ReadBack
import FormulaGrid.Proofs.Formula.References
import FormulaGrid.Proofs.Formula.OneOperand
import FormulaGrid.Proofs.Formula.Extended
import FormulaGrid.Proofs.Formula.Pieces
import FormulaGrid.Proofs.Formula.Locality
import FormulaGrid.Proofs.Formula.Fusion
import FormulaGrid.Proofs.Document.History
import FormulaGrid.Proofs.Session.Reduced
import FormulaGrid.Proofs.Document.Failure
import FormulaGrid.Proofs.Command.Replay
import FormulaGrid.Proofs.Formula.Sum
import FormulaGrid.Proofs.Formula.Worth
import FormulaGrid.Proofs.Sheet.Writes
import FormulaGrid.Proofs.Command.Draft
import FormulaGrid.Proofs.Formula.Rejected
import FormulaGrid.Proofs.Formula.Constant
import FormulaGrid.Proofs.Formula.Shown
import FormulaGrid.Proofs.Document.Size
import FormulaGrid.Proofs.Document.Moves
import FormulaGrid.Proofs.Session.Preview
import FormulaGrid.Proofs.Document.Table
import FormulaGrid.Proofs.Cell.Order
import FormulaGrid.Proofs.Settings.Load
import FormulaGrid.Proofs.Arith.Ending
import FormulaGrid.Proofs.Session.Options
import FormulaGrid.Proofs.Arith.Scanner
import FormulaGrid.Proofs.Arith.Lossless
