import CellLedger.Operation

/-!
What an operation did, and what it would do. Times are filled in by whoever holds a clock; this
library leaves them at zero.
-/

set_option autoImplicit false

namespace CellLedger

structure ExecutionInfo where
  kind : OperationKind
  /-- Milliseconds since the beginning of 1970. -/
  startedAt : Nat := 0
  finishedAt : Nat := 0
  cellsPerSecond : Number := .zero
  deriving DecidableEq, Repr

structure OperationResult where
  success : Bool
  cellsModified : Nat
  cellsProcessed : Nat
  executionTime : Duration := .zero
  errors : List String
  warnings : List String
  /-- One record for every cell that was altered. -/
  changes : ChangeSet
  info : ExecutionInfo
  deriving DecidableEq

/-- The record filed under the cell with this key, however the key is spelled. -/
def ChangeSet.atKey? (changes : ChangeSet) (key : String) : Option Change :=
  (Address.ofKey? key).bind changes.get?

namespace OperationResult

/-- A failure that touched no cell. -/
def failed (kind : OperationKind) (errors : List String) : OperationResult where
  success := false
  cellsModified := 0
  cellsProcessed := 0
  errors := errors
  warnings := []
  changes := ∅
  info := { kind }

def kind (r : OperationResult) : OperationKind := r.info.kind

end OperationResult

structure OperationPreview where
  /-- The first changes, row by row, up to the limit asked for. -/
  changes : List Change
  previewCount : Nat
  totalChanges : Nat
  isTruncated : Bool
  cellsModified : Nat
  cellsSkipped : Nat
  formulaCells : Nat
  valueCells : Nat
  warnings : List String
  errors : List String
  estimate : Duration
  deriving DecidableEq

end CellLedger
