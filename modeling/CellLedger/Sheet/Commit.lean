import CellLedger.Sheet

/-!
Committing a batch: validate, capture what the targeted cells hold, run the operations, and on
failure put the captured contents back. A commit ends rejected (nothing was touched and the batch
stays active), rolled back, committed, or with the error that contents could not be put back.
-/

set_option autoImplicit false

namespace CellLedger.Sheet

/-- Puts every captured cell back and closes the batch, also if a cell is refused. -/
def putBack (sheet : Sheet) (batch : Batch) : Except BatchError Unit × Sheet :=
  let closed := sheet.putBatch { batch with state := .rolledBack }
  let stats := sheet.stats.recordRollback
  match restore batch.id batch.captured sheet.store with
  | (.ok _, store) => (.ok (), { closed with store, stats })
  | (.error e, store) => (.error e, { closed with store, stats := stats.recordRollbackFailure })

def rollBackAfter (sheet : Sheet) (batch : Batch) (failure : Run) :
    Except BatchError BatchResult × Sheet :=
  match sheet.putBack batch with
  | (.error e, sheet) => (.error e, sheet)
  | (.ok (), sheet) => (.ok (.rolledBack batch failure), sheet)

def settle (sheet : Sheet) (batch : Batch) (run : Run) : Except BatchError BatchResult × Sheet :=
  match run.ending with
  | .abandoned => sheet.rollBackAfter batch run
  | .stuck e =>
    -- Operations before the one that is stuck stay in effect.
    (.error e, { sheet.putBatch { batch with state := .committed } with
      stats := sheet.stats.recordRollbackFailure })
  | .finished =>
    let result := BatchResult.committed batch run
    (.ok result, { sheet.putBatch { batch with state := .committed } with
      stats := sheet.stats.recordCommit result.totalCellsModified })

def carryOut (sheet : Sheet) (batch : Batch) : Except BatchError BatchResult × Sheet :=
  match batch.capture sheet.store with
  | (.error e, batch, store) =>
    rollBackAfter { sheet with store } batch { errors := ["critical batch error: " ++ e.message] }
  | (.ok _, batch, store) =>
    let (run, store) := batch.run sheet.config.autoRollback store
    settle { sheet with store, stats := sheet.stats.recordRun run } batch run

/-- The problems that reject a commit; none are looked for if the sheet does not validate first. -/
def objections (sheet : Sheet) (batch : Batch) (now : Instant) : List String :=
  if sheet.config.validateFirst then batch.problems sheet.config now else []

def commit (sheet : Sheet) (id : BatchId) (now : Instant) :
    Except BatchError BatchResult × Sheet :=
  match sheet.findActive id with
  | .error e => (.error e, sheet)
  | .ok batch =>
    match sheet.objections batch now with
    | [] => sheet.carryOut batch
    | problems => (.ok (.rejected batch problems), sheet)

def rollBack (sheet : Sheet) (id : BatchId) : Except BatchError Unit × Sheet :=
  match sheet.findActive id with
  | .error e => (.error e, sheet)
  | .ok batch => sheet.putBack batch

def forget (sheet : Sheet) (id : BatchId) : Sheet :=
  { sheet with batches := sheet.batches.erase id }

/-- The result of a batch of one operation, also if the operation never ran. -/
def singleResult (kind : OperationKind) (result : BatchResult) : OperationResult :=
  result.results.head?.getD (.failed kind result.errors)

/-- Carries out one operation in a batch of its own, which is forgotten whatever becomes of it. -/
def executeSingle (sheet : Sheet) (op : Operation) (begun now : Instant) :
    Except BatchError OperationResult × Sheet :=
  let (id, sheet) := sheet.begin ∅ begun
  match sheet.add id op with
  | (.error e, sheet) => (.error e, sheet.forget id)
  | (.ok (), sheet) =>
    match sheet.commit id now with
    | (.error e, sheet) => (.error e, sheet.forget id)
    | (.ok result, sheet) => (.ok (singleResult op.kind result), sheet.forget id)

end CellLedger.Sheet
