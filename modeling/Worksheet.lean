import Worksheet.Main
import Worksheet.Proofs.Address.Canonical
import Worksheet.Proofs.CommandLine.PrintedCells
import Worksheet.Proofs.CommandLine.SeparateRuns
import Worksheet.Proofs.Decimal.WholeNumbers
import Worksheet.Proofs.Document.Bounds
import Worksheet.Proofs.Document.Calls
import Worksheet.Proofs.Document.CellChanges
import Worksheet.Proofs.Document.Continuation
import Worksheet.Proofs.Document.Growth
import Worksheet.Proofs.Document.LeastExtent
import Worksheet.Proofs.Document.Persistence
import Worksheet.Proofs.Document.Reopening
import Worksheet.Proofs.Document.Tables
import Worksheet.Proofs.Evaluation.DataCells
import Worksheet.Proofs.Evaluation.EmptyAggregates
import Worksheet.Proofs.Evaluation.Limits
import Worksheet.Proofs.Evaluation.LookupErrors
import Worksheet.Proofs.Evaluation.Outcomes
import Worksheet.Proofs.Evaluation.PastExtent
import Worksheet.Proofs.Evaluation.RangeCalls
import Worksheet.Proofs.Evaluation.RangeNesting
import Worksheet.Proofs.Evaluation.ReferenceArithmetic
import Worksheet.Proofs.Evaluation.ReferenceWalk
import Worksheet.Proofs.Evaluation.StoredNumbers
import Worksheet.Proofs.Formula.Idempotence
import Worksheet.Proofs.Formula.Pattern
import Worksheet.Proofs.Script.NumericLeaves
import Worksheet.Proofs.Settings.Words
import Worksheet.Proofs.Sheet.GridChanges
import Worksheet.Proofs.Storage.SizeLimit
