import CellLedger.Contract.Cells
import CellLedger.History.ActionId
import CellLedger.Sheet

/-!
The JSON forms of identifiers, results, previews, states and counters.
-/

set_option autoImplicit false

namespace CellLedger.Contract

def batchId : Codec BatchId where
  write id := Codec.count.write id.value
  read? j := (Codec.count.read? j).map BatchId.mk

def actionId : Codec ActionId := .viaString ActionId.text ActionId.ofText?

def operationKind : Codec OperationKind :=
  .choice [("SetValue", .setValue), ("Clear", .clear), ("UndoReplay", .undoReplay),
    ("RedoReplay", .redoReplay), ("Batch", .batch)]

def batchState : Codec BatchState :=
  .choice [("Open", .active), ("Committed", .committed), ("RolledBack", .rolledBack),
    ("Cancelled", .cancelled)]

/-- Seconds and nanoseconds; a second or more of nanoseconds is carried. -/
def duration : Codec Duration where
  write d := .record [
    ("secs", Codec.count.write d.seconds),
    ("nanos", Codec.count.write d.subsecond)]
  read? j := do
    match ← j.fields? true ["secs", "nanos"] with
    | [secs, nanos] =>
      let secs ← Codec.count.required? secs
      let nanos ← (Codec.natural UInt32.size).required? nanos
      if secs + nanos / Duration.second < UInt64.size then
        some ⟨secs * Duration.second + nanos⟩
      else none
    | _ => none

def executionInfo : Codec ExecutionInfo where
  write i := .record [
    ("operation_type", operationKind.write i.kind),
    ("started_at_ms", Codec.count.write i.startedAt),
    ("finished_at_ms", Codec.count.write i.finishedAt),
    ("cells_per_second", Codec.number.write i.cellsPerSecond)]
  read? j := do
    let names := ["operation_type", "started_at_ms", "finished_at_ms", "cells_per_second"]
    match ← j.fields? false names with
    | [kind, startedAt, finishedAt, rate] => some {
        kind := ← operationKind.required? kind
        startedAt := ← Codec.count.required? startedAt
        finishedAt := ← Codec.count.required? finishedAt
        cellsPerSecond := ← Codec.number.required? rate }
    | _ => none

def operationResult : Codec OperationResult where
  write r := .record [
    ("success", Codec.bool.write r.success),
    ("cells_modified", Codec.count.write r.cellsModified),
    ("cells_processed", Codec.count.write r.cellsProcessed),
    ("execution_time", duration.write r.executionTime),
    ("errors", Codec.string.list.write r.errors),
    ("warnings", Codec.string.list.write r.warnings),
    ("actual_changes", changeSet.write r.changes),
    ("metadata", executionInfo.write r.info)]
  read? j := do
    let names := ["success", "cells_modified", "cells_processed", "execution_time", "errors",
      "warnings", "actual_changes", "metadata"]
    match ← j.fields? false names with
    | [success, modified, processed, time, errors, warnings, changes, info] => some {
        success := ← Codec.bool.required? success
        cellsModified := ← Codec.count.required? modified
        cellsProcessed := ← Codec.count.required? processed
        executionTime := ← duration.required? time
        errors := ← Codec.string.list.required? errors
        warnings := ← Codec.string.list.required? warnings
        changes := ← changeSet.required? changes
        info := ← executionInfo.required? info }
    | _ => none

def batchResult : Codec BatchResult where
  write r := .record [
    ("batch_id", batchId.write r.id),
    ("success", Codec.bool.write r.success),
    ("operation_results", operationResult.list.write r.results),
    ("operation_count", Codec.count.write r.operationCount),
    ("total_cells_modified", Codec.count.write r.totalCellsModified),
    ("total_execution_time", duration.write r.totalTime),
    ("was_rolled_back", Codec.bool.write r.wasRolledBack),
    ("batch_errors", Codec.string.list.write r.errors),
    ("consolidated_changes", changeSet.write r.changes)]
  read? j := do
    let names := ["batch_id", "success", "operation_results", "operation_count",
      "total_cells_modified", "total_execution_time", "was_rolled_back", "batch_errors",
      "consolidated_changes"]
    match ← j.fields? false names with
    | [id, success, results, operations, cells, time, rolledBack, errors, changes] => some {
        id := ← batchId.required? id
        success := ← Codec.bool.required? success
        results := ← operationResult.list.required? results
        operationCount := ← Codec.count.required? operations
        totalCellsModified := ← Codec.count.required? cells
        totalTime := ← duration.required? time
        wasRolledBack := ← Codec.bool.required? rolledBack
        errors := ← Codec.string.list.required? errors
        changes := ← changeSet.required? changes }
    | _ => none

def operationPreview : Codec OperationPreview where
  write p := .record [
    ("changes", change.list.write p.changes),
    ("preview_count", Codec.count.write p.previewCount),
    ("total_changes", Codec.count.write p.totalChanges),
    ("is_truncated", Codec.bool.write p.isTruncated),
    ("cells_modified", Codec.count.write p.cellsModified),
    ("cells_skipped", Codec.count.write p.cellsSkipped),
    ("formula_cells", Codec.count.write p.formulaCells),
    ("value_cells", Codec.count.write p.valueCells),
    ("warnings", Codec.string.list.write p.warnings),
    ("errors", Codec.string.list.write p.errors),
    ("estimated_time", duration.write p.estimate)]
  read? j := do
    let names := ["changes", "preview_count", "total_changes", "is_truncated", "cells_modified",
      "cells_skipped", "formula_cells", "value_cells", "warnings", "errors", "estimated_time"]
    match ← j.fields? false names with
    | [changes, shown, total, truncated, modified, skipped, formulas, values, warnings, errors,
        estimate] => some {
        changes := ← change.list.required? changes
        previewCount := ← Codec.count.required? shown
        totalChanges := ← Codec.count.required? total
        isTruncated := ← Codec.bool.required? truncated
        cellsModified := ← Codec.count.required? modified
        cellsSkipped := ← Codec.count.required? skipped
        formulaCells := ← Codec.count.required? formulas
        valueCells := ← Codec.count.required? values
        warnings := ← Codec.string.list.required? warnings
        errors := ← Codec.string.list.required? errors
        estimate := ← duration.required? estimate }
    | _ => none

def batchPreview : Codec BatchPreview where
  write p := .record [
    ("batch_id", batchId.write p.id),
    ("operation_previews", operationPreview.list.write p.previews),
    ("total_cells_modified", Codec.count.write p.totalCellsModified),
    ("total_cells_skipped", Codec.count.write p.totalCellsSkipped),
    ("estimated_time", duration.write p.estimate),
    ("validation_errors", Codec.string.list.write p.validationErrors)]
  read? j := do
    let names := ["batch_id", "operation_previews", "total_cells_modified", "total_cells_skipped",
      "estimated_time", "validation_errors"]
    match ← j.fields? false names with
    | [id, previews, modified, skipped, estimate, errors] => some {
        id := ← batchId.required? id
        previews := ← operationPreview.list.required? previews
        totalCellsModified := ← Codec.count.required? modified
        totalCellsSkipped := ← Codec.count.required? skipped
        estimate := ← duration.required? estimate
        validationErrors := ← Codec.string.list.required? errors }
    | _ => none

def batchStatus : Codec BatchStatus where
  write s := .record [
    ("batch_id", batchId.write s.id),
    ("state", batchState.write s.state),
    ("operation_count", Codec.count.write s.operationCount),
    ("affected_cells", Codec.count.write s.affectedCells),
    ("captured_originals", Codec.count.write s.capturedCount),
    ("elapsed", duration.write s.elapsed),
    ("metadata", metadata.write s.metadata)]
  read? j := do
    let names := ["batch_id", "state", "operation_count", "affected_cells", "captured_originals",
      "elapsed", "metadata"]
    match ← j.fields? false names with
    | [id, state, operations, affected, captured, elapsed, m] => some {
        id := ← batchId.required? id
        state := ← batchState.required? state
        operationCount := ← Codec.count.required? operations
        affectedCells := ← Codec.count.required? affected
        capturedCount := ← Codec.count.required? captured
        elapsed := ← duration.required? elapsed
        metadata := ← metadata.required? m }
    | _ => none

def stats : Codec Stats where
  write t := .record [
    ("batches_started", Codec.count.write t.batchesStarted),
    ("batches_committed", Codec.count.write t.batchesCommitted),
    ("batches_rolled_back", Codec.count.write t.batchesRolledBack),
    ("batches_cancelled", Codec.count.write t.batchesCancelled),
    ("operations_executed", Codec.count.write t.operationsExecuted),
    ("operations_failed", Codec.count.write t.operationsFailed),
    ("cells_modified", Codec.count.write t.cellsModified),
    ("rollback_failures", Codec.count.write t.rollbackFailures)]
  read? j := do
    let names := ["batches_started", "batches_committed", "batches_rolled_back",
      "batches_cancelled", "operations_executed", "operations_failed", "cells_modified",
      "rollback_failures"]
    match ← j.fields? false names with
    | [started, committed, rolledBack, cancelled, executed, failed, modified, failures] => some {
        batchesStarted := ← Codec.count.required? started
        batchesCommitted := ← Codec.count.required? committed
        batchesRolledBack := ← Codec.count.required? rolledBack
        batchesCancelled := ← Codec.count.required? cancelled
        operationsExecuted := ← Codec.count.required? executed
        operationsFailed := ← Codec.count.required? failed
        cellsModified := ← Codec.count.required? modified
        rollbackFailures := ← Codec.count.required? failures }
    | _ => none

end CellLedger.Contract
