import CellLedger.Config
import CellLedger.Operation.Execute

/-!
Batches: operations that are carried out together. Operations of one batch target disjoint cells,
and each targeted cell is owned by the operation that targets it. Before anything is written the
contents of every targeted cell are captured, so that they can be put back.
-/

set_option autoImplicit false

namespace CellLedger

structure Batch where
  id : BatchId
  operations : List Operation := []
  /-- Targeted cells, each with the index of the operation that owns it. -/
  owners : SortedMap Address Nat := ∅
  /-- Captured contents; `none` stands for an empty cell. -/
  captured : SortedMap Address (Option Value) := ∅
  startedAt : Instant
  state : BatchState := .active
  metadata : Metadata := ∅
  deriving DecidableEq

structure BatchStatus where
  id : BatchId
  state : BatchState
  operationCount : Nat
  affectedCells : Nat
  capturedCount : Nat
  elapsed : Duration
  metadata : Metadata
  deriving DecidableEq

namespace Batch

def isActive (b : Batch) : Bool := decide (b.state = .active)

def owner? (b : Batch) (a : Address) : Option Nat := b.owners.get? a

def isAffected (b : Batch) (a : Address) : Bool := b.owners.contains a

def affectedCount (b : Batch) : Nat := b.owners.size

def ensureActive (b : Batch) : Except BatchError Batch :=
  if b.isActive then .ok b else .error (.inactive b.id b.state)

/-- The first cell, row by row, that some operation of the batch already owns. -/
def sharedCell? (b : Batch) (selection : Selection) : Option (Address × Nat) :=
  selection.cells.findSome? fun a => (b.owner? a).map fun owner => (a, owner)

/-- Registers an operation, unless the batch is closed, has too many operations, already targets one
of the cells or would target too many. -/
def add (b : Batch) (op : Operation) (config : SheetConfig) : Except BatchError Batch :=
  let projected := b.affectedCount + op.selection.count
  -- Of several objections the first in this order is reported.
  if !b.isActive then .error (.inactive b.id b.state)
  else if config.maxOperations < b.operations.length + 1 then
    .error (.sizeLimit config.maxOperations)
  else
    match b.sharedCell? op.selection with
    | some (a, owner) => .error (.conflict a owner)
    | none =>
      if config.maxCells < projected then .error (.cellLimit config.maxCells projected)
      else
        .ok { b with
          operations := b.operations ++ [op]
          owners := b.owners.insertAll
            (op.selection.cells.map fun a => (a, b.operations.length)) }

def uncaptured (b : Batch) : List Address :=
  b.owners.keys.filter fun a => !b.captured.contains a

def captureCells : List Address → SortedMap Address (Option Value) → Store →
    Except StoreError Unit × SortedMap Address (Option Value) × Store
  | [], captured, s => (.ok (), captured, s)
  | a :: rest, captured, s =>
    match s.get a with
    -- What was read before the refusal stays captured.
    | (.error e, s) => (.error e, captured, s)
    | (.ok value, s) => captureCells rest (captured.insert a value) s

def capture (b : Batch) (s : Store) : Except StoreError Nat × Batch × Store :=
  match captureCells b.uncaptured b.captured s with
  | (.error e, captured, s) => (.error e, { b with captured }, s)
  | (.ok (), captured, s) => (.ok b.uncaptured.length, { b with captured }, s)

def problems (b : Batch) (config : SheetConfig) (now : Instant) : List String :=
  let elapsed := Duration.between b.startedAt now
  let inactive :=
    if b.isActive then [] else ["batch is not active (state: " ++ b.state.text ++ ")"]
  let empty := if b.operations.isEmpty then ["batch has no operations"] else []
  let late :=
    if config.timeout < elapsed then
      ["batch timed out: open for " ++ toString elapsed.milliseconds ++ " ms, limit " ++
        toString config.timeout.milliseconds ++ " ms"]
    else []
  let operations := b.operations.zipIdx.filterMap fun (op, index) =>
    op.problem?.map fun problem => "operation " ++ toString index ++ ": " ++ problem
  inactive ++ empty ++ late ++ operations

def status (b : Batch) (now : Instant) : BatchStatus where
  id := b.id
  state := b.state
  operationCount := b.operations.length
  affectedCells := b.affectedCount
  capturedCount := b.captured.size
  elapsed := .between b.startedAt now
  metadata := b.metadata

end Batch

end CellLedger
