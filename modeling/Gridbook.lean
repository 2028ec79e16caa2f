import Gridbook.Config
import Gridbook.Workbook.Cascade
import Gridbook.Proofs.Graph.Reach
import Gridbook.Proofs.Graph.Edges
import Gridbook.Proofs.Graph.BuildOrder
import Gridbook.Proofs.Cascade.Turn
import Gridbook.Proofs.Workbook.Moves
import Gridbook.Proofs.Workbook.Soundness
import Gridbook.Proofs.Workbook.Severance
import Gridbook.Proofs.Cascade.Course
import Gridbook.Proofs.Cascade.Pass
import Gridbook.Proofs.Cascade.Verdict
import Gridbook.Proofs.Cascade.Settled
import Gridbook.Proofs.Column.Inference
import Gridbook.Proofs.Merge.Join
import Gridbook.Proofs.Settings.Replay
import Gridbook.Proofs.Cascade.Confinement
import Gridbook.Proofs.Workbook.Consistency
import Gridbook.Proofs.Cascade.Untouched
import Gridbook.Proofs.Cascade.Repetition
import Gridbook.Proofs.Workbook.History
import Gridbook.Proofs.Workbook.HeaderGuard
import Gridbook.Proofs.Json.RoundTrip
import Gridbook.Proofs.Json.Short
import Gridbook.Proofs.Settings.Shelf
import Gridbook.Proofs.Settings.Version
import Gridbook.Proofs.Table.Removal
import Gridbook.Proofs.Formula.Meaning
import Gridbook.Proofs.Formula.Printing
import Gridbook.Proofs.Table.Layout
import Gridbook.Proofs.Cell.Key
import Gridbook.Proofs.Merge.NestedLoop
import Gridbook.Proofs.Formula.Overlong
import Gridbook.Proofs.Table.Failure
import Gridbook.Proofs.Number.Range
import Gridbook.Proofs.Number.Width
import Gridbook.Proofs.Formula.Size
import Gridbook.Proofs.Text.Length
import Gridbook.Proofs.Cell.Tame
import Gridbook.Proofs.Formula.Progress
import Gridbook.Proofs.Workbook.Registration
import Gridbook.Proofs.Cell.Amount
import Gridbook.Proofs.Workbook.Aftermath
import Gridbook.Proofs.Merge.Blanks
import Gridbook.Proofs.Merge.Composition
import Gridbook.Proofs.Workbook.Forgetting
import Gridbook.Proofs.Workbook.Persistence
import Gridbook.Proofs.Formula.Resolution
import Gridbook.Proofs.Formula.Problems
import Gridbook.Proofs.Table.Restoring
import Gridbook.Proofs.Settings.Migration
import Gridbook.Proofs.Settings.Loading
import Gridbook.Proofs.Formula.Naming
import Gridbook.Proofs.Formula.Spans
import Gridbook.Proofs.Merge.Outcome
import Gridbook.Proofs.Merge.Labels
import Gridbook.Proofs.Merge.Repeats
import Gridbook.Proofs.Merge.Symmetry
import Gridbook.Proofs.Graph.Changes
import Gridbook.Proofs.Graph.Ordering
import Gridbook.Proofs.Graph.Depth
import Gridbook.Proofs.Column.Sampling
import Gridbook.Proofs.Column.Display
import Gridbook.Proofs.Number.Nearest
import Gridbook.Proofs.Number.Integer
import Gridbook.Proofs.Number.Grouping
import Gridbook.Proofs.Number.Multiple
import Gridbook.Proofs.Number.Shortest
import Gridbook.Proofs.Number.Fewest
import Gridbook.Proofs.Number.Written
import Gridbook.Proofs.Formula.Rounding
import Gridbook.Proofs.Table.Undoing
import Gridbook.Proofs.Settings.FileNames
