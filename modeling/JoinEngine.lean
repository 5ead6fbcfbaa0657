import JoinEngine.Main
import JoinEngine.Proofs.Codec.Descriptor
import JoinEngine.Proofs.Condition.Classified
import JoinEngine.Proofs.Condition.Meaning
import JoinEngine.Proofs.Exec.BuiltSide
import JoinEngine.Proofs.Exec.Cache
import JoinEngine.Proofs.Exec.Cancellation
import JoinEngine.Proofs.Exec.ChainMeaning
import JoinEngine.Proofs.Exec.Checkpoints
import JoinEngine.Proofs.Exec.Conservation
import JoinEngine.Proofs.Exec.HeldSides
import JoinEngine.Proofs.Exec.Lookup
import JoinEngine.Proofs.Exec.OnAndWhere
import JoinEngine.Proofs.Exec.ReadDescriptors
import JoinEngine.Proofs.Exec.ShapedRuns
import JoinEngine.Proofs.Exec.SharedColumns
import JoinEngine.Proofs.Exec.SingleBuilder
import JoinEngine.Proofs.Exec.Tally
import JoinEngine.Proofs.Exec.Tuning
import JoinEngine.Proofs.Expr.Connectives
import JoinEngine.Proofs.Expr.Filling
import JoinEngine.Proofs.Expr.IntegerTrees
import JoinEngine.Proofs.Expr.Nulls
import JoinEngine.Proofs.Expr.Readings
import JoinEngine.Proofs.Expr.Rebasing
import JoinEngine.Proofs.Job.Definitions
import JoinEngine.Proofs.Job.Partitions
import JoinEngine.Proofs.Job.RowIntegers
import JoinEngine.Proofs.Key.Buckets
import JoinEngine.Proofs.Key.EqualKeys
import JoinEngine.Proofs.Key.Insertions
import JoinEngine.Proofs.Plan.Assembled
import JoinEngine.Proofs.Plan.Launch
import JoinEngine.Proofs.QueryId
import JoinEngine.Proofs.Relation.FlatStore
import JoinEngine.Proofs.Relation.OneRowPerKey
import JoinEngine.Proofs.Report.CsvHeader
import JoinEngine.Proofs.Report.CsvRecords
import JoinEngine.Proofs.Report.Header
import JoinEngine.Proofs.RowMetadata
import JoinEngine.Proofs.Value.Comparison
