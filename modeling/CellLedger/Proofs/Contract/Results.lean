import CellLedger.Contract.Results
import CellLedger.Proofs.Contract.Cells

/-!
Every contract reads back from its text (`contracts_round_trip`): whole numbers have to fit
sixty-four bits, as they do wherever they are counted, and other numbers have to be finite.
-/

set_option autoImplicit false

namespace CellLedger

def Duration.Portable (d : Duration) : Prop := d.seconds < UInt64.size

instance : DecidablePred Duration.Portable := fun d =>
  inferInstanceAs (Decidable (d.seconds < UInt64.size))

structure ExecutionInfo.Portable (i : ExecutionInfo) : Prop where
  startedAt : i.startedAt < UInt64.size
  finishedAt : i.finishedAt < UInt64.size
  rate : i.cellsPerSecond.isFinite = true

structure OperationResult.Portable (r : OperationResult) : Prop where
  modified : r.cellsModified < UInt64.size
  processed : r.cellsProcessed < UInt64.size
  time : r.executionTime.Portable
  changes : ChangeSet.isFinite r.changes = true
  info : r.info.Portable

structure BatchResult.Portable (r : BatchResult) : Prop where
  id : r.id.value < UInt64.size
  results : ∀ result ∈ r.results, result.Portable
  operations : r.operationCount < UInt64.size
  modified : r.totalCellsModified < UInt64.size
  time : r.totalTime.Portable
  changes : ChangeSet.isFinite r.changes = true

structure OperationPreview.Portable (p : OperationPreview) : Prop where
  changes : ∀ c ∈ p.changes, c.isFinite = true
  shown : p.previewCount < UInt64.size
  total : p.totalChanges < UInt64.size
  modified : p.cellsModified < UInt64.size
  skipped : p.cellsSkipped < UInt64.size
  formulas : p.formulaCells < UInt64.size
  values : p.valueCells < UInt64.size
  estimate : p.estimate.Portable

structure BatchPreview.Portable (p : BatchPreview) : Prop where
  id : p.id.value < UInt64.size
  previews : ∀ preview ∈ p.previews, preview.Portable
  modified : p.totalCellsModified < UInt64.size
  skipped : p.totalCellsSkipped < UInt64.size
  estimate : p.estimate.Portable

structure BatchStatus.Portable (s : BatchStatus) : Prop where
  id : s.id.value < UInt64.size
  operations : s.operationCount < UInt64.size
  affected : s.affectedCells < UInt64.size
  captured : s.capturedCount < UInt64.size
  elapsed : s.elapsed.Portable

structure Stats.Portable (t : Stats) : Prop where
  started : t.batchesStarted < UInt64.size
  committed : t.batchesCommitted < UInt64.size
  rolledBack : t.batchesRolledBack < UInt64.size
  cancelled : t.batchesCancelled < UInt64.size
  executed : t.operationsExecuted < UInt64.size
  failed : t.operationsFailed < UInt64.size
  modified : t.cellsModified < UInt64.size
  rollbackFailures : t.rollbackFailures < UInt64.size

namespace Contract

open Codec

theorem count_ships {n : Nat} (fits : n < UInt64.size) : count.Ships n := natural_ships fits

theorem strings_ship (xs : List String) : string.list.Ships xs :=
  .list fun s _ => string_ships s

theorem batchId_ships {id : BatchId} (fits : id.value < UInt64.size) : batchId.Ships id where
  faithful := congrArg (Option.map BatchId.mk) (count_ships fits).read
  wellFormed := (count_ships fits).wellFormed

theorem operationKind_ships (k : OperationKind) : operationKind.Ships k :=
  choice_ships (by decide) (by cases k <;> decide)

theorem batchState_ships (s : BatchState) : batchState.Ships s :=
  choice_ships (by decide) (by cases s <;> decide)

theorem duration_ships {d : Duration} (portable : d.Portable) : duration.Ships d := by
  -- Less than a second of nanoseconds is written, so that none is carried on reading.
  have small : d.subsecond < Duration.second := Nat.mod_lt _ (by decide)
  have word : d.subsecond < UInt32.size := small.trans (by decide)
  have seconds := count_ships portable
  have subsecond : (count.write d.subsecond).WellFormed :=
    (count_ships (word.trans (by decide))).wellFormed
  have read : (natural UInt32.size).read? (count.write d.subsecond) = some d.subsecond :=
    (natural_ships word).read
  have none : d.subsecond / Duration.second = 0 := Nat.div_eq_of_lt small
  have whole : d.seconds * Duration.second + d.subsecond = d.nanoseconds :=
    Nat.div_add_mod' ..
  have fits : d.seconds < UInt64.size := portable
  refine .record (fun _ => rfl) rfl rfl (by decide) ?_ ?_
  · simp [seconds.wellFormed, subsecond]
  · simp [required?, seconds.read, read, none, whole, fits]

theorem executionInfo_ships {i : ExecutionInfo} (portable : i.Portable) :
    executionInfo.Ships i := by
  have kind := operationKind_ships i.kind
  have startedAt := count_ships portable.startedAt
  have finishedAt := count_ships portable.finishedAt
  have rate := number_ships portable.rate
  refine .record (fun _ => rfl) rfl rfl (by decide) ?_ ?_
  · simp [kind.wellFormed, startedAt.wellFormed, finishedAt.wellFormed, rate.wellFormed]
  · simp [required?, kind.read, startedAt.read, finishedAt.read, rate.read]

theorem operationResult_ships {r : OperationResult} (portable : r.Portable) :
    operationResult.Ships r := by
  have success := bool_ships r.success
  have modified := count_ships portable.modified
  have processed := count_ships portable.processed
  have time := duration_ships portable.time
  have errors := strings_ship r.errors
  have warnings := strings_ship r.warnings
  have changes := changeSet_ships portable.changes
  have info := executionInfo_ships portable.info
  refine .record (fun _ => rfl) rfl rfl (by decide) ?_ ?_
  · simp [success.wellFormed, modified.wellFormed, processed.wellFormed, time.wellFormed,
      errors.wellFormed, warnings.wellFormed, changes.wellFormed, info.wellFormed]
  · simp [required?, success.read, modified.read, processed.read, time.read, errors.read,
      warnings.read, changes.read, info.read]

theorem batchResult_ships {r : BatchResult} (portable : r.Portable) : batchResult.Ships r := by
  have id := batchId_ships portable.id
  have success := bool_ships r.success
  have results := Ships.list fun result member => operationResult_ships (portable.results result member)
  have operations := count_ships portable.operations
  have modified := count_ships portable.modified
  have time := duration_ships portable.time
  have rolledBack := bool_ships r.wasRolledBack
  have errors := strings_ship r.errors
  have changes := changeSet_ships portable.changes
  refine .record (fun _ => rfl) rfl rfl (by decide) ?_ ?_
  · simp [id.wellFormed, success.wellFormed, results.wellFormed, operations.wellFormed,
      modified.wellFormed, time.wellFormed, rolledBack.wellFormed, errors.wellFormed,
      changes.wellFormed]
  · simp [required?, id.read, success.read, results.read, operations.read, modified.read,
      time.read, rolledBack.read, errors.read, changes.read]

theorem operationPreview_ships {p : OperationPreview} (portable : p.Portable) :
    operationPreview.Ships p := by
  have changes := Ships.list fun c member => change_ships (portable.changes c member)
  have shown := count_ships portable.shown
  have total := count_ships portable.total
  have truncated := bool_ships p.isTruncated
  have modified := count_ships portable.modified
  have skipped := count_ships portable.skipped
  have formulas := count_ships portable.formulas
  have values := count_ships portable.values
  have warnings := strings_ship p.warnings
  have errors := strings_ship p.errors
  have estimate := duration_ships portable.estimate
  refine .record (fun _ => rfl) rfl rfl (by decide) ?_ ?_
  · simp [changes.wellFormed, shown.wellFormed, total.wellFormed, truncated.wellFormed,
      modified.wellFormed, skipped.wellFormed, formulas.wellFormed, values.wellFormed,
      warnings.wellFormed, errors.wellFormed, estimate.wellFormed]
  · simp [required?, changes.read, shown.read, total.read, truncated.read, modified.read,
      skipped.read, formulas.read, values.read, warnings.read, errors.read, estimate.read]

theorem batchPreview_ships {p : BatchPreview} (portable : p.Portable) : batchPreview.Ships p := by
  have id := batchId_ships portable.id
  have previews := Ships.list fun q member => operationPreview_ships (portable.previews q member)
  have modified := count_ships portable.modified
  have skipped := count_ships portable.skipped
  have estimate := duration_ships portable.estimate
  have errors := strings_ship p.validationErrors
  refine .record (fun _ => rfl) rfl rfl (by decide) ?_ ?_
  · simp [id.wellFormed, previews.wellFormed, modified.wellFormed, skipped.wellFormed,
      estimate.wellFormed, errors.wellFormed]
  · simp [required?, id.read, previews.read, modified.read, skipped.read, estimate.read,
      errors.read]

theorem batchStatus_ships {s : BatchStatus} (portable : s.Portable) : batchStatus.Ships s := by
  have id := batchId_ships portable.id
  have state := batchState_ships s.state
  have operations := count_ships portable.operations
  have affected := count_ships portable.affected
  have captured := count_ships portable.captured
  have elapsed := duration_ships portable.elapsed
  have metadata := metadata_ships s.metadata
  refine .record (fun _ => rfl) rfl rfl (by decide) ?_ ?_
  · simp [id.wellFormed, state.wellFormed, operations.wellFormed, affected.wellFormed,
      captured.wellFormed, elapsed.wellFormed, metadata.wellFormed]
  · simp [required?, id.read, state.read, operations.read, affected.read, captured.read,
      elapsed.read, metadata.read]

theorem stats_ships {t : Stats} (portable : t.Portable) : stats.Ships t := by
  have started := count_ships portable.started
  have committed := count_ships portable.committed
  have rolledBack := count_ships portable.rolledBack
  have cancelled := count_ships portable.cancelled
  have executed := count_ships portable.executed
  have failed := count_ships portable.failed
  have modified := count_ships portable.modified
  have rollbackFailures := count_ships portable.rollbackFailures
  refine .record (fun _ => rfl) rfl rfl (by decide) ?_ ?_
  · simp [started.wellFormed, committed.wellFormed, rolledBack.wellFormed, cancelled.wellFormed,
      executed.wellFormed, failed.wellFormed, modified.wellFormed, rollbackFailures.wellFormed]
  · simp [required?, started.read, committed.read, rolledBack.read, cancelled.read, executed.read,
      failed.read, modified.read, rollbackFailures.read]

theorem contracts_round_trip :
    (∀ a, address.ofText? (address.toText a) = some a) ∧
      (∀ v, v.isFinite = true → value.ofText? (value.toText v) = some v) ∧
      (∀ c, c.isFinite = true → change.ofText? (change.toText c) = some c) ∧
      (∀ changes, ChangeSet.isFinite changes = true →
        changeSet.ofText? (changeSet.toText changes) = some changes) ∧
      (∀ s, selection.ofText? (selection.toText s) = some s) ∧
      (∀ o : SetOptions, o.value.isFinite = true →
        setOptions.ofText? (setOptions.toText o) = some o) ∧
      (∀ r, r.Portable → operationResult.ofText? (operationResult.toText r) = some r) ∧
      (∀ r, r.Portable → batchResult.ofText? (batchResult.toText r) = some r) ∧
      (∀ p, p.Portable → operationPreview.ofText? (operationPreview.toText p) = some p) ∧
      (∀ p, p.Portable → batchPreview.ofText? (batchPreview.toText p) = some p) ∧
      (∀ s, s.Portable → batchStatus.ofText? (batchStatus.toText s) = some s) ∧
      ∀ t, t.Portable → stats.ofText? (stats.toText t) = some t :=
  ⟨fun a => (address_ships a).ofText?, fun _ finite => (value_ships finite).ofText?,
    fun _ finite => (change_ships finite).ofText?,
    fun _ finite => (changeSet_ships finite).ofText?, fun s => (selection_ships s).ofText?,
    fun _ finite => (setOptions_ships finite).ofText?,
    fun _ portable => (operationResult_ships portable).ofText?,
    fun _ portable => (batchResult_ships portable).ofText?,
    fun _ portable => (operationPreview_ships portable).ofText?,
    fun _ portable => (batchPreview_ships portable).ofText?,
    fun _ portable => (batchStatus_ships portable).ofText?,
    fun _ portable => (stats_ships portable).ofText?⟩

theorem contracts_round_trip_negative_zero :
    let a : Address := ⟨UInt32.ofNat 4294967295, 0⟩
    let v : Value := .number (.ofMagnitude true 0)
    let c := (Change.record a (some v) (some (.text "\"Ünï\\cödé\"\n\x01"))).withMetadata "by" "é"
    let changes : ChangeSet := SortedMap.ofList [(a, c), (⟨0, 0⟩, .record ⟨0, 0⟩ none none)]
    let options : SetOptions := ⟨v, false⟩
    let result : OperationResult :=
      { success := true, cellsModified := 1, cellsProcessed := 18446744073709551615,
        executionTime := ⟨1500000001⟩, errors := ["\t"], warnings := [], changes := changes,
        info := { kind := .setValue, cellsPerSecond := .ofMagnitude false 1 } }
    let batch : BatchResult :=
      { id := ⟨1⟩, success := true, results := [result], operationCount := 1,
        totalCellsModified := 1, wasRolledBack := false, errors := [], changes := changes }
    let preview : OperationPreview := ⟨[c], 1, 2, true, 2, 0, 0, 2, [], ["é"], ⟨1000⟩⟩
    let batchPreview : BatchPreview := ⟨⟨1⟩, [preview], 2, 0, ⟨1000⟩, []⟩
    let status : BatchStatus := ⟨⟨1⟩, .active, 1, 2, 0, ⟨1⟩, ∅⟩
    let counters : Stats := { batchesStarted := 1 }
    (v.isFinite = true ∧ value.ofText? (value.toText v) = some v) ∧
      (c.isFinite = true ∧ change.ofText? (change.toText c) = some c) ∧
      (changes.isFinite = true ∧ changeSet.ofText? (changeSet.toText changes) = some changes) ∧
      (options.value.isFinite = true ∧
        setOptions.ofText? (setOptions.toText options) = some options) ∧
      (result.Portable ∧ operationResult.ofText? (operationResult.toText result) = some result) ∧
      (batch.Portable ∧ batchResult.ofText? (batchResult.toText batch) = some batch) ∧
      (preview.Portable ∧
        operationPreview.ofText? (operationPreview.toText preview) = some preview) ∧
      (batchPreview.Portable ∧
        Contract.batchPreview.ofText? (Contract.batchPreview.toText batchPreview) =
          some batchPreview) ∧
      (status.Portable ∧ batchStatus.ofText? (batchStatus.toText status) = some status) ∧
      counters.Portable ∧ stats.ofText? (stats.toText counters) = some counters := by
  intro a v c changes options result batch preview batchPreview status counters
  have finite : v.isFinite = true := by decide +kernel
  have record : c.isFinite = true := by decide +kernel
  have records : changes.isFinite = true := by decide +kernel
  have result_portable : result.Portable :=
    ⟨by decide, by decide, by decide, records, by decide, by decide, by decide +kernel⟩
  have batch_portable : batch.Portable :=
    ⟨by decide, by simpa [batch] using result_portable, by decide, by decide, by decide, records⟩
  have preview_portable : preview.Portable :=
    ⟨by simpa [preview] using record, by decide, by decide, by decide, by decide, by decide,
      by decide, by decide⟩
  have batchPreview_portable : batchPreview.Portable :=
    ⟨by decide, by simpa [batchPreview] using preview_portable, by decide, by decide, by decide⟩
  have status_portable : status.Portable :=
    ⟨by decide, by decide, by decide, by decide, by decide⟩
  have counters_portable : counters.Portable :=
    ⟨by decide, by decide, by decide, by decide, by decide, by decide, by decide, by decide⟩
  obtain ⟨-, values, changed, changeSets, -, settings, results, batches, previews, batchPreviews,
    statuses, snapshots⟩ := contracts_round_trip
  exact ⟨⟨finite, values v finite⟩, ⟨record, changed c record⟩,
    ⟨records, changeSets changes records⟩, ⟨finite, settings options finite⟩,
    ⟨result_portable, results result result_portable⟩,
    ⟨batch_portable, batches batch batch_portable⟩,
    ⟨preview_portable, previews preview preview_portable⟩,
    ⟨batchPreview_portable, batchPreviews batchPreview batchPreview_portable⟩,
    ⟨status_portable, statuses status status_portable⟩,
    counters_portable, snapshots counters counters_portable⟩

end Contract

end CellLedger
