import CellLedger.Contract.Results
import CellLedger.Proofs.SortedMap.Lookup
import CellLedger.Proofs.Store.Access
import CellLedger.Session
import CellLedger.Store.Sample
import CellLedger.Proofs.Operation.Execute
import CellLedger.Proofs.Batch.Ownership
import CellLedger.Proofs.Change.Difference
import CellLedger.Proofs.Batch.Run
import CellLedger.Proofs.Sheet.CarryOut
import CellLedger.Proofs.Sheet.Reachable
import CellLedger.Proofs.Sheet.Atomicity
import CellLedger.Proofs.Sheet.Report
import CellLedger.Proofs.Operation.Inverse
import CellLedger.Proofs.History.Bridges
import CellLedger.Proofs.History.Timeline
import CellLedger.Proofs.Sheet.Steps
import CellLedger.Proofs.Sheet.Limits
import CellLedger.Proofs.Sheet.Captured
import CellLedger.Proofs.Sheet.Lifecycle
import CellLedger.Proofs.Sheet.Unfaulted
import CellLedger.Proofs.Sheet.Registration
import CellLedger.Proofs.Sheet.Serial
import CellLedger.Proofs.Store.Spurned
import CellLedger.Proofs.Operation.Preview
import CellLedger.Proofs.Batch.Alarm
import CellLedger.Proofs.History.Reachable
import CellLedger.Proofs.History.Effect
import CellLedger.Proofs.Sheet.Alarm
import CellLedger.Proofs.Sheet.Classification
import CellLedger.Proofs.Sheet.Preview
import CellLedger.Proofs.History.Retry
import CellLedger.Proofs.History.Bounds
import CellLedger.Proofs.History.Eviction
import CellLedger.Proofs.Sheet.Permutation
import CellLedger.Proofs.Operation.Accesses
import CellLedger.Proofs.Batch.Accesses
import CellLedger.Proofs.Sheet.WriteAhead
import CellLedger.Proofs.Sheet.Tally
import CellLedger.Proofs.Sheet.Ledger
import CellLedger.Proofs.History.Recording
import CellLedger.Proofs.Operation.Replay
import CellLedger.Proofs.Json.Quotation
import CellLedger.Proofs.Json.Reading
import CellLedger.Proofs.Number.Rounding
import CellLedger.Proofs.Number.Shortest
import CellLedger.Proofs.Json.Numeral
import CellLedger.Proofs.Json.Codec
import CellLedger.Proofs.Contract.Cells
import CellLedger.Proofs.Contract.Results
import CellLedger.Proofs.Contract.Shipping
import CellLedger.Proofs.Change.Alike
import CellLedger.Proofs.Operation.Alternation
import CellLedger.Proofs.Operation.Rendering
import CellLedger.Proofs.Sheet.Admission
import CellLedger.Proofs.Sheet.Single
import CellLedger.Proofs.Operation.Halting
import CellLedger.Proofs.Operation.Attempts
import CellLedger.Proofs.Address.Key
import CellLedger.Proofs.Address.Letters
import CellLedger.Proofs.Batch.Restore
import CellLedger.Proofs.History.Refusal
import CellLedger.Proofs.Batch.Capture
import CellLedger.Proofs.Selection.Cells
import CellLedger.Proofs.Selection.Denotation
import CellLedger.Proofs.Operation.Equality
import CellLedger.Proofs.Store.Faults
