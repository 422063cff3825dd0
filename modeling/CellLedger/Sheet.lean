import CellLedger.Batch.Result

/-!
A sheet: a store of cells, the batches begun on it, and counters of what became of them.
-/

set_option autoImplicit false

namespace CellLedger

structure Stats where
  batchesStarted : Nat := 0
  batchesCommitted : Nat := 0
  batchesRolledBack : Nat := 0
  batchesCancelled : Nat := 0
  operationsExecuted : Nat := 0
  operationsFailed : Nat := 0
  cellsModified : Nat := 0
  rollbackFailures : Nat := 0
  deriving DecidableEq, Repr, Inhabited

namespace Stats

def recordStart (t : Stats) : Stats := { t with batchesStarted := t.batchesStarted + 1 }

def recordCommit (t : Stats) (cells : Nat) : Stats :=
  { t with
    batchesCommitted := t.batchesCommitted + 1
    cellsModified := t.cellsModified + cells }

def recordRollback (t : Stats) : Stats := { t with batchesRolledBack := t.batchesRolledBack + 1 }

def recordCancel (t : Stats) : Stats := { t with batchesCancelled := t.batchesCancelled + 1 }

def recordRun (t : Stats) (run : Run) : Stats :=
  { t with
    operationsExecuted := t.operationsExecuted + run.results.length
    operationsFailed := t.operationsFailed + run.errors.length }

def recordRollbackFailure (t : Stats) : Stats :=
  { t with rollbackFailures := t.rollbackFailures + 1 }

end Stats

structure Sheet where
  store : Store
  config : SheetConfig := {}
  /-- Every batch begun and not yet swept away, closed ones included. -/
  batches : SortedMap BatchId Batch := ∅
  nextId : Nat := 1
  stats : Stats := {}
  deriving DecidableEq

namespace Sheet

def batch? (sheet : Sheet) (id : BatchId) : Option Batch := sheet.batches.get? id

def find (sheet : Sheet) (id : BatchId) : Except BatchError Batch :=
  match sheet.batch? id with
  | some batch => .ok batch
  | none => .error (.notFound id)

def findActive (sheet : Sheet) (id : BatchId) : Except BatchError Batch := do
  (← sheet.find id).ensureActive

def putBatch (sheet : Sheet) (batch : Batch) : Sheet :=
  { sheet with batches := sheet.batches.insert batch.id batch }

def begin (sheet : Sheet) (metadata : Metadata) (now : Instant) : BatchId × Sheet :=
  let batch : Batch := { id := ⟨sheet.nextId⟩, startedAt := now, metadata }
  (batch.id,
    { sheet.putBatch batch with nextId := sheet.nextId + 1, stats := sheet.stats.recordStart })

def add (sheet : Sheet) (id : BatchId) (op : Operation) : Except BatchError Unit × Sheet :=
  match sheet.find id with
  | .error e => (.error e, sheet)
  | .ok batch =>
    match batch.add op sheet.config with
    -- A refused operation leaves no cell registered.
    | .error e => (.error e, sheet)
    | .ok batch => (.ok (), sheet.putBatch batch)

def validate (sheet : Sheet) (id : BatchId) (now : Instant) : Except BatchError (List String) :=
  (sheet.find id).map fun batch => batch.problems sheet.config now

def preview (sheet : Sheet) (id : BatchId) (limit : Option Nat) (now : Instant) :
    Except BatchError BatchPreview × Sheet :=
  match sheet.findActive id with
  | .error e => (.error e, sheet)
  | .ok batch =>
    match Batch.previewOperations limit batch.operations sheet.store with
    | (.error e, store) => (.error (.store e), { sheet with store })
    | (.ok previews, store) =>
      (.ok (batch.previewOf sheet.config now previews), { sheet with store })

def cancel (sheet : Sheet) (id : BatchId) : Except BatchError Unit × Sheet :=
  match sheet.findActive id with
  | .error e => (.error e, sheet)
  | .ok batch =>
    (.ok (), { sheet.putBatch { batch with state := .cancelled } with
      stats := sheet.stats.recordCancel })

def sweep (sheet : Sheet) : Nat × Sheet :=
  let kept := sheet.batches.filter fun _ batch => batch.isActive
  (sheet.batches.size - kept.size, { sheet with batches := kept })

def status? (sheet : Sheet) (id : BatchId) (now : Instant) : Option BatchStatus :=
  (sheet.batch? id).map (·.status now)

def activeBatches (sheet : Sheet) : List BatchId :=
  (sheet.batches.filter fun _ batch => batch.isActive).keys

def text (sheet : Sheet) : String :=
  "BatchProcessor \x7b config: " ++ sheet.config.text ++
    ", tracked_batches: " ++ toString sheet.batches.size ++
    ", active_batches: " ++ toString sheet.activeBatches.length ++ ", .. \x7d"

end Sheet

end CellLedger
