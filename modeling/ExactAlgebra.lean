import ExactAlgebra.Constants
import ExactAlgebra.Error.Message
import ExactAlgebra.Exchange.Array
import ExactAlgebra.Exchange.Sparse
import ExactAlgebra.Exchange.Symbolic
import ExactAlgebra.Expression.Evaluation
import ExactAlgebra.Matrix.Request
import ExactAlgebra.Operand.Operators
import ExactAlgebra.Operand.Order
import ExactAlgebra.Operand.Reader
import ExactAlgebra.Operand.Sign
import ExactAlgebra.Operand.Store
import ExactAlgebra.Operand.Text
import ExactAlgebra.Proofs.Determinant
import ExactAlgebra.Proofs.Evaluation
import ExactAlgebra.Proofs.FailedChange
import ExactAlgebra.Proofs.Reduction
import ExactAlgebra.Storage.MatrixFile
import ExactAlgebra.Proofs.NumberText
import ExactAlgebra.Proofs.RationalOrder
import ExactAlgebra.Proofs.MatrixText
import ExactAlgebra.Proofs.Decoding
import ExactAlgebra.Proofs.PackedData
import ExactAlgebra.Proofs.MatrixFile
import ExactAlgebra.Proofs.Agreement
import ExactAlgebra.Proofs.ReductionAgreement
import ExactAlgebra.Proofs.AlikeArguments
import ExactAlgebra.Proofs.KindIndependence
import ExactAlgebra.Proofs.ComplexValues
import ExactAlgebra.Proofs.Changes
import ExactAlgebra.Proofs.Rank
import ExactAlgebra.Proofs.ComplexElimination
import ExactAlgebra.Proofs.Lifetime
import ExactAlgebra.Proofs.Powers
import ExactAlgebra.Proofs.MatrixArithmetic
import ExactAlgebra.Proofs.ElementaryMatrices
import ExactAlgebra.Proofs.RegularMatrices
import ExactAlgebra.Proofs.Quotients
import ExactAlgebra.Proofs.NumberGrammar
import ExactAlgebra.Proofs.NumberReading
import ExactAlgebra.Proofs.MatrixGrammar
import ExactAlgebra.Proofs.TextEvaluation
import ExactAlgebra.Proofs.Distance
import ExactAlgebra.Proofs.Kinds
import ExactAlgebra.Proofs.BestApproximation
import ExactAlgebra.Proofs.ReducedMatrices
import ExactAlgebra.Proofs.Parentheses
import ExactAlgebra.Proofs.RecordLayout
import ExactAlgebra.Proofs.Keys
import ExactAlgebra.Proofs.ScalarProducts
import ExactAlgebra.Proofs.Spelling
import ExactAlgebra.Proofs.SyntaxErrors
import ExactAlgebra.Proofs.ExplicitSigns
import ExactAlgebra.Proofs.Widening
import ExactAlgebra.Proofs.SparseForms
import ExactAlgebra.Proofs.SparseSums
import ExactAlgebra.Proofs.ForeignMatrices
import ExactAlgebra.Proofs.Lexemes
import ExactAlgebra.Proofs.ParserPositions
