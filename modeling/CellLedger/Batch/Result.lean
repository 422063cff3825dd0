import CellLedger.Batch.Run
import CellLedger.Operation.Preview

/-!
The outcome of a commit and the preview of one.
-/

set_option autoImplicit false

namespace CellLedger

structure BatchResult where
  id : BatchId
  success : Bool
  results : List OperationResult
  /-- How many operations are registered, whether they ran or not. -/
  operationCount : Nat
  totalCellsModified : Nat
  totalTime : Duration := .zero
  wasRolledBack : Bool
  errors : List String
  /-- The changes of all successful operations; of two to one cell the later counts. -/
  changes : ChangeSet
  deriving DecidableEq

namespace BatchResult

/-- A failure before any operation ran. -/
def rejected (b : Batch) (errors : List String) : BatchResult where
  id := b.id
  success := false
  results := []
  operationCount := b.operations.length
  totalCellsModified := 0
  wasRolledBack := false
  errors := errors
  changes := ∅

/-- A failure after which every captured cell was put back. -/
def rolledBack (b : Batch) (run : Run) : BatchResult where
  id := b.id
  success := false
  results := run.results
  operationCount := b.operations.length
  totalCellsModified := 0
  wasRolledBack := true
  errors := run.errors
  changes := ∅

def consolidate (results : List OperationResult) : ChangeSet :=
  .ofList (results.flatMap fun r => r.changes.entries)

def committed (b : Batch) (run : Run) : BatchResult :=
  let kept := run.results.filter (·.success)
  { id := b.id
    success := run.errors.isEmpty
    results := run.results
    operationCount := b.operations.length
    totalCellsModified := (kept.map (·.cellsModified)).foldr (· + ·) 0
    wasRolledBack := false
    errors := run.errors
    changes := consolidate kept }

end BatchResult

structure BatchPreview where
  id : BatchId
  previews : List OperationPreview
  totalCellsModified : Nat
  totalCellsSkipped : Nat
  estimate : Duration
  validationErrors : List String
  deriving DecidableEq

namespace BatchPreview

def isClean (p : BatchPreview) : Bool :=
  p.validationErrors.isEmpty && p.previews.all fun q => q.errors.isEmpty

end BatchPreview

namespace Batch

def previewOperations (limit : Option Nat) :
    List Operation → Store → Except StoreError (List OperationPreview) × Store
  | [], s => (.ok [], s)
  | op :: rest, s =>
    match op.preview limit s with
    | (.error e, s) => (.error e, s)
    | (.ok preview, s) =>
      match previewOperations limit rest s with
      | (.error e, s) => (.error e, s)
      | (.ok previews, s) => (.ok (preview :: previews), s)

def previewOf (b : Batch) (config : SheetConfig) (now : Instant)
    (previews : List OperationPreview) : BatchPreview where
  id := b.id
  previews := previews
  totalCellsModified := (previews.map (·.cellsModified)).foldr (· + ·) 0
  totalCellsSkipped := (previews.map (·.cellsSkipped)).foldr (· + ·) 0
  estimate := .sum (previews.map (·.estimate))
  validationErrors := b.problems config now

end Batch

end CellLedger
