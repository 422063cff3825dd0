import CellLedger.Proofs.Sheet.Classification
import CellLedger.Proofs.Sheet.Tally

/-!
The counters of a sheet balance with what its calls come to: `Reachable.after_booked`. If whole
batches are rolled back, every batch begun is accounted for (`stats_balanced`). In either mode the
commits that are counted are those that answer with a result (`stats_of_commits`).
-/

set_option autoImplicit false

namespace CellLedger

namespace Sheet

section Open

variable {sheet : Sheet} {b : Batch} {id : BatchId}

theorem length_activeBatches (sheet : Sheet) :
    sheet.activeBatches.length = (sheet.batches.filter fun _ b => b.isActive).size :=
  (SortedMap.size_eq_length_keys _).symm

theorem length_activeBatches_forget (sheet : Sheet) (id : BatchId) :
    (sheet.forget id).activeBatches.length +
      ((sheet.batch? id).filter (·.isActive)).toList.length = sheet.activeBatches.length := by
  have left := (sheet.batches.filter fun _ b => b.isActive).size_erase_add id
  rw [SortedMap.get?_filter] at left
  rw [length_activeBatches, length_activeBatches, forget, SortedMap.filter_erase]
  exact left

theorem length_activeBatches_putBatch (sheet : Sheet) (b : Batch) :
    (sheet.putBatch b).activeBatches.length +
        ((sheet.batch? b.id).filter (·.isActive)).toList.length =
      sheet.activeBatches.length + b.isActive.toNat := by
  rw [← sheet.length_activeBatches_forget b.id]
  rw [length_activeBatches, length_activeBatches, putBatch, forget, SortedMap.filter_insert,
    SortedMap.filter_erase, Option.filter_some]
  cases isOpen : b.isActive with
  | true =>
    rw [if_pos rfl, SortedMap.assign, SortedMap.size_insert_eq]
    simp only [Bool.toNat_true]
    omega
  | false => rfl

theorem length_activeBatches_close (held : sheet.batch? b.id = some b) (isOpen : b.isActive = true)
    {captured : SortedMap Address (Option Value)} {state : BatchState} {store : Store}
    {stats : Stats} (closed : state ≠ .active) :
    (sheet.close b captured state store stats).activeBatches.length + 1 =
      sheet.activeBatches.length := by
  have put := sheet.length_activeBatches_putBatch { b with captured, state }
  have left : Batch.isActive { b with captured, state } = false := by simp [Batch.isActive, closed]
  change (sheet.putBatch { b with captured, state }).activeBatches.length + 1 = _
  simpa [held, isOpen, left, Option.filter_some] using put

end Open

section Booking

/-- The counters and the number of open batches are altered by what is told. -/
structure Booked (sheet : Sheet) (x : Tally) (after : Sheet) : Prop where
  config : after.config = sheet.config
  posted : Stats.Posted sheet.config.autoRollback sheet.stats sheet.activeBatches.length x
    after.stats after.activeBatches.length

variable {sheet middle after : Sheet} {b : Batch} {id : BatchId} {x y : Tally}

theorem Booked.trans (first : sheet.Booked x middle) (second : middle.Booked y after) :
    sheet.Booked (x + y) after where
  config := second.config.trans first.config
  posted := by
    have later := second.posted
    rw [first.config] at later
    exact first.posted.trans later

theorem booked_of_eq (config : after.config = sheet.config) (stats : after.stats = sheet.stats)
    (batches : after.batches = sheet.batches) : sheet.Booked {} after where
  config := config
  posted := by
    have same : after.activeBatches = sheet.activeBatches := by rw [activeBatches, batches]; rfl
    rw [stats, same]
    exact .refl _ _ _

theorem booked_begin (numbered : sheet.Numbered) (metadata : Metadata) (now : Instant) :
    sheet.Booked {} (sheet.begin metadata now).2 := by
  have put := sheet.length_activeBatches_putBatch
    { id := ⟨sheet.nextId⟩, startedAt := now, metadata }
  rw [untracked_of_numbered numbered] at put
  have grown : (sheet.begin metadata now).2.activeBatches.length = sheet.activeBatches.length + 1 :=
    put
  refine ⟨rfl, ?_⟩
  rw [grown]
  exact .begun _ _ _

theorem booked_add (sound : sheet.Sound) (id : BatchId) (op : Operation) :
    sheet.Booked {} (sheet.add id op).2 := by
  rcases sheet.add_cases id op with ⟨_, run⟩ | ⟨b, c, held, accepted, run⟩
  · exact booked_of_eq (by rw [run]) (by rw [run]) (by rw [run])
  · rw [run]
    obtain rfl : c.id = id := (Batch.id_of_add accepted).trans (sound id b held).1
    obtain ⟨isOpen, _, _, _, same⟩ := Batch.add_eq_ok accepted
    have stillOpen : c.isActive = true := by rw [same]; exact isOpen
    have put := sheet.length_activeBatches_putBatch c
    have length : (sheet.putBatch c).activeBatches.length = sheet.activeBatches.length := by
      simpa [held, isOpen, stillOpen, Option.filter_some] using put
    refine ⟨rfl, ?_⟩
    rw [length]
    exact .refl _ _ _

-- A batch is closed, and it alone.
theorem booked_close (held : sheet.batch? b.id = some b) (isOpen : b.isActive = true)
    {captured : SortedMap Address (Option Value)} {state : BatchState} {store : Store}
    {stats : Stats} (closed : state ≠ .active)
    (posted : ∀ n, Stats.Posted sheet.config.autoRollback sheet.stats (n + 1) x stats n) :
    sheet.Booked x (sheet.close b captured state store stats) := by
  refine ⟨rfl, ?_⟩
  rw [← length_activeBatches_close held isOpen closed]
  exact posted _

theorem booked_cancel (sound : sheet.Sound) (id : BatchId) :
    sheet.Booked {} (sheet.cancel id).2 := by
  cases found : sheet.findActive id with
  | error e =>
    simp only [cancel, found]
    exact booked_of_eq rfl rfl rfl
  | ok b =>
    obtain ⟨held, isOpen⟩ := findActive_eq_ok.1 found
    obtain rfl := (sound id b held).1
    have closed : sheet.Booked {}
        (sheet.close b b.captured .cancelled sheet.store sheet.stats.recordCancel) :=
      booked_close held isOpen (by simp) fun n => .cancelled _ _ n
    simp only [cancel, found]
    exact closed

theorem booked_rollBack (sound : sheet.Sound) (id : BatchId) :
    sheet.Booked {} (sheet.rollBack id).2 := by
  cases found : sheet.findActive id with
  | error e =>
    simp only [rollBack, found]
    exact booked_of_eq rfl rfl rfl
  | ok b =>
    obtain ⟨held, isOpen⟩ := findActive_eq_ok.1 found
    obtain ⟨rfl, batch⟩ := sound id b held
    have closed : sheet.Booked {}
        (sheet.close b b.captured .rolledBack sheet.store sheet.stats.recordRollback) :=
      booked_close held isOpen (by simp) fun n =>
        .rolledBack _ _ n (Nat.le_refl 0) (Nat.zero_le 1)
    -- Nothing is captured in an open batch, so that nothing can be refused.
    simp only [rollBack, found, putBack, batch.fresh isOpen] at closed ⊢
    exact closed

theorem booked_sweep (sheet : Sheet) : sheet.Booked {} sheet.sweep.2 := by
  have same : sheet.sweep.2.activeBatches = sheet.activeBatches := by
    simp [activeBatches, sweep, SortedMap.filter, List.filter_filter, SortedMap.keys]
  refine ⟨rfl, ?_⟩
  rw [same]
  exact .refl _ _ _

theorem booked_of_quiet (sound : sheet.Sound) (numbered : sheet.Numbered) (now : Instant)
    {c : BatchCall} (quiet : c.isQuiet = true) : sheet.Booked {} (sheet.call now c).2 := by
  have same : sheet.Booked {} sheet := booked_of_eq rfl rfl rfl
  cases c with
  | begin metadata => exact booked_begin numbered metadata now
  | add id op => exact booked_add sound id op
  | validate id => exact same
  | preview id limit =>
    simp only [call, preview]
    split
    · exact same
    · split <;> exact booked_of_eq rfl rfl rfl
  | commit id => simp [BatchCall.isQuiet] at quiet
  | rollBack id => exact booked_rollBack sound id
  | cancel id => exact booked_cancel sound id
  | sweep => exact sheet.booked_sweep
  | executeSingle op => simp [BatchCall.isQuiet] at quiet
  | status id => exact same
  | active => exact same

-- An open batch that is forgotten is begun and never accounted for.
theorem booked_forget (sheet : Sheet) (id : BatchId) :
    sheet.Booked { discarded := ((sheet.batch? id).any (·.isActive)).toNat } (sheet.forget id) := by
  have left := sheet.length_activeBatches_forget id
  have weight : ((sheet.batch? id).filter (·.isActive)).toList.length =
      ((sheet.batch? id).any (·.isActive)).toNat := by
    cases sheet.batch? id with
    | none => rfl
    | some b => cases isOpen : b.isActive <;> simp [Option.filter_some, isOpen]
  refine ⟨rfl, ?_⟩
  constructor <;> simp [forget, Stats.Below]
  change _ = sheet.stats.batchesStarted + ((sheet.forget id).activeBatches.length + _ + _ + _) + _
  omega

theorem length_errors_le {captured : SortedMap Address (Option Value)} {rollback : Bool}
    {s t : Store} {run : Run} (attempted : Batch.run { b with captured } rollback s = (run, t)) :
    run.errors.length ≤ run.results.length := by
  rw [errors_of_run attempted]
  exact Batch.length_failureTexts_le _ _ _

theorem Setback.stats_eq {run : Run} {captured : SortedMap Address (Option Value)} {s : Store}
    {stats : Stats} (setback : Setback sheet b run captured s stats) :
    ∃ executed failed, failed ≤ executed ∧ failed ≤ 1 ∧
      stats = sheet.stats.ran executed failed := by
  cases setback with
  | uncaptured => exact ⟨0, 0, Nat.le_refl _, Nat.zero_le _, rfl⟩
  | abandoned _ _ attempted ran ending =>
    have one := ran.length_errors_of_abandoned ending
    exact ⟨_, _, length_errors_le attempted, Nat.le_of_eq one, rfl⟩

theorem commitTally_close (held : sheet.batch? b.id = some b) (isOpen : b.isActive = true)
    (answer : Except BatchError BatchResult) (captured : SortedMap Address (Option Value))
    (state : BatchState) (store : Store) (stats : Stats) :
    sheet.commitTally b.id (answer, sheet.close b captured state store stats) =
      { reported := answer.toOption.elim 0 (·.totalCellsModified)
        committed := (decide (state = .committed)).toNat
        stuck := (decide (state = .committed) && !answer.isOk).toNat
        altered :=
          if state = .committed ∧ answer.isOk then sheet.store.cells.distance store.cells
          else 0 } := by
  simp [commitTally, held, isOpen, batch?_close]
  rfl

theorem CarriedOut.booked {outcome : Except BatchError BatchResult × Sheet}
    (carriedOut : CarriedOut sheet b outcome) (batch : b.Sound)
    (held : sheet.batch? b.id = some b) (isOpen : b.isActive = true) :
    sheet.Booked { sheet.commitTally b.id outcome with alarms := alarm outcome.1 } outcome.2 := by
  cases carriedOut with
  | rolledBack setback =>
    obtain ⟨executed, failed, fewer, one, rfl⟩ := setback.stats_eq
    rw [commitTally_close held isOpen]
    exact booked_close held isOpen (by simp) fun n => .rolledBack _ _ n fewer one
  | unrestored setback =>
    obtain ⟨executed, failed, fewer, one, rfl⟩ := setback.stats_eq
    rw [commitTally_close held isOpen]
    exact booked_close held isOpen (by simp) fun n => .unrestored _ _ n fewer one
  | stuck _ _ attempted ran ending =>
    obtain ⟨partially, _, _, _, _, _, _, _, _, _, rfl, _⟩ := ran.of_stuck ending
    rw [commitTally_close held isOpen]
    refine booked_close held isOpen (by simp) fun n => ?_
    rw [partially]
    exact .stuck _ n (length_errors_le attempted)
  | @finished _ _ _ _ run _ same attempted ran ending =>
    obtain ⟨settled, _, strict⟩ := ran.of_finished ending
    have clean (on : sheet.config.autoRollback = true) : run.errors.length = 0 := by
      simp [strict on]
    -- What the operations report is what the contents differ by.
    have total := BatchResult.committed_totalCellsModified batch.owned.apart settled
    rw [(BatchResult.committed_between settled ran.touches).size_eq_distance, same] at total
    rw [commitTally_close held isOpen, ← total]
    exact booked_close held isOpen (by simp) fun n =>
      .committed _ n (length_errors_le attempted) clean _

-- A batch is not open and committed at once.
theorem commitTally_unchanged (sheet : Sheet) (id : BatchId)
    {answer : Except BatchError BatchResult}
    (nothing : answer.toOption.elim 0 (·.totalCellsModified) = 0) :
    sheet.commitTally id (answer, sheet) = {} := by
  have commits : ((sheet.batch? id).any (·.isActive) &&
      (sheet.batch? id).any fun b => b.state = .committed) = false := by
    cases sheet.batch? id with
    | none => rfl
    | some b => cases state : b.state <;> simp [Batch.isActive, state]
  simp only [commitTally, commits, nothing]
  rfl

theorem booked_commit (sound : sheet.Sound) (id : BatchId) (now : Instant) :
    sheet.Booked { sheet.commitTally id (sheet.commit id now) with
      alarms := alarm (sheet.commit id now).1 } (sheet.commit id now).2 := by
  rcases sheet.commit_cases id now with
    ⟨e, refused, run⟩ | ⟨b, held, isOpen, ⟨_, run⟩ | ⟨_, run⟩⟩
  · have harmless := sheet.alarm_findActive id
    rw [refused, alarm_error] at harmless
    rw [run, commitTally_unchanged sheet id rfl, alarm_error, harmless]
    exact booked_of_eq rfl rfl rfl
  · rw [run, commitTally_unchanged sheet id rfl]
    exact booked_of_eq rfl rfl rfl
  · obtain ⟨rfl, batch⟩ := sound id b held
    rw [run]
    exact (sheet.carryOut_carriedOut batch isOpen).booked batch held isOpen

-- Only a rejection leaves the batch of a commit open.
theorem isActive_commit (sound : sheet.Sound) (id : BatchId) (now : Instant) :
    ((sheet.commit id now).2.batch? id).any (·.isActive) = sheet.rejects id now := by
  rcases sheet.commit_cases id now with
    ⟨e, refused, run⟩ | ⟨b, held, isOpen, ⟨invalid, run⟩ | ⟨valid, run⟩⟩
  · rw [run, rejects]
    cases held : sheet.batch? id with
    | none => rfl
    | some b => simp [closed_of_refused refused held]
  · simp [run, rejects, held, isOpen, invalid]
  · obtain ⟨rfl, batch⟩ := sound id b held
    have carriedOut := sheet.carryOut_carriedOut batch isOpen
    rw [run, rejects, held]
    generalize sheet.carryOut b = outcome at carriedOut ⊢
    cases carriedOut <;> simp [batch?_close, Batch.isActive, valid]

theorem booked_executeSingle (reachable : sheet.Reachable) (op : Operation)
    (begun now : Instant) :
    sheet.Booked { sheet.singleTally op begun now with
      alarms := alarm (sheet.executeSingle op begun now).1 }
      (sheet.executeSingle op begun now).2 := by
  have sound := reachable.sound.begin ∅ begun
  have added := sound.add ⟨sheet.nextId⟩ op
  have entered := (booked_begin reachable.numbered ∅ begun).trans
    (booked_add sound ⟨sheet.nextId⟩ op)
  have harmless := (sheet.begin ∅ begun).2.alarm_add ⟨sheet.nextId⟩ op
  rcases sheet.executeSingle_cases op begun now with ⟨e, t, step, run⟩ | ⟨t, step, run⟩
  · rw [step] at entered harmless
    rw [alarm_error] at harmless
    have stillOpen : (t.batch? ⟨sheet.nextId⟩).any (·.isActive) = true := by
      rw [add_begin] at step
      split at step
      · obtain ⟨_, rfl⟩ := Prod.mk.inj step
        rw [show (sheet.begin ∅ begun).2.batch? ⟨sheet.nextId⟩ = some _ from
          (sheet.batch?_putBatch _ _).trans (if_pos rfl)]
        rfl
      · simp at step
    have booked := entered.trans (t.booked_forget ⟨sheet.nextId⟩)
    rw [run]
    simp only [singleTally, step]
    rw [stillOpen] at booked
    simpa [Tally.add_def, harmless] using booked
  · rw [step] at entered added
    have booked := (entered.trans (booked_commit added ⟨sheet.nextId⟩ now)).trans
      (booked_forget _ ⟨sheet.nextId⟩)
    rw [isActive_commit added] at booked
    rw [run]
    simp only [singleTally, step, alarm_map]
    simpa [Tally.add_def, commitTally] using booked

theorem step_booked (reachable : sheet.Reachable) (e : Event) :
    sheet.Booked (sheet.tallyOf e) (sheet.step e) := by
  have quiet (now : Instant) (c : BatchCall) (quiet : c.isQuiet = true) :
      sheet.Booked { alarms := alarm (sheet.call now c).1 } (sheet.call now c).2 := by
    rw [alarm_of_quiet reachable.sound now quiet]
    exact booked_of_quiet reachable.sound reachable.numbered now quiet
  cases e with
  | exchange store => exact booked_of_eq rfl rfl rfl
  | executeSingle op begun now => exact booked_executeSingle reachable op begun now
  | call now c =>
    cases c with
    | commit id =>
      have booked := booked_commit reachable.sound id now
      simpa only [tallyOf, alarms, step, call, alarm_map] using booked
    | executeSingle op =>
      have booked := booked_executeSingle reachable op now (now + 1)
      simpa only [tallyOf, alarms, step, call, alarm_map] using booked
    | begin metadata => exact quiet now (.begin metadata) rfl
    | add id op => exact quiet now (.add id op) rfl
    | validate id => exact quiet now (.validate id) rfl
    | preview id limit => exact quiet now (.preview id limit) rfl
    | rollBack id => exact quiet now (.rollBack id) rfl
    | cancel id => exact quiet now (.cancel id) rfl
    | sweep => exact quiet now .sweep rfl
    | status id => exact quiet now (.status id) rfl
    | active => exact quiet now .active rfl

theorem Reachable.after_booked (reachable : sheet.Reachable) (events : List Event) :
    sheet.Booked (sheet.tally events) (sheet.after events) := by
  induction events generalizing sheet with
  | nil => exact booked_of_eq rfl rfl rfl
  | cons e rest ih => exact (step_booked reachable e).trans (ih (reachable.step e))

end Booking

-- With rollback of whole batches every batch begun is accounted for.
theorem stats_balanced (store : Store) {config : SheetConfig}
    (rollback : config.autoRollback = true) (events : List Event) :
    let start : Sheet := { store, config }
    let sheet := start.after events
    let tally := start.tally events
    (sheet.stats.batchesStarted = sheet.activeBatches.length + sheet.stats.batchesCommitted +
        sheet.stats.batchesRolledBack + sheet.stats.batchesCancelled + tally.discarded) ∧
      sheet.stats.rollbackFailures = tally.alarms ∧
      sheet.stats.rollbackFailures ≤ sheet.stats.batchesRolledBack ∧
      sheet.stats.cellsModified = tally.reported ∧
      sheet.stats.operationsFailed ≤ sheet.stats.operationsExecuted ∧
      sheet.stats.operationsFailed ≤ sheet.stats.batchesRolledBack ∧
      ∀ more, sheet.stats.Below (sheet.after more).stats := by
  intro start sheet tally
  have reachable : start.Reachable := .start store config
  have booked : start.Booked tally sheet := reachable.after_booked events
  obtain ⟨balance, _, cells, alarms, _, alarmed, _, executed, strict, _⟩ := booked.posted
  obtain ⟨unstuck, failed⟩ := strict rollback
  have none : start.stats = {} ∧ start.activeBatches = [] := ⟨rfl, rfl⟩
  simp only [none, List.length_nil, Nat.zero_add, Nat.add_zero, unstuck] at *
  refine ⟨balance, alarms, ?_, cells, executed, failed, fun more => ?_⟩
  · omega
  · exact ((reachable.after events).after_booked more).posted.below

theorem stats_balanced_write_refused :
    let config : SheetConfig := { maxCells := 1 }
    let store : Store := { faults := { cells := [⟨0, 0⟩] } }
    let write (selection : Selection) : Operation := .overwriteText selection "x"
    let events : List Event := [.executeSingle (write (.range ⟨0, 0⟩ ⟨0, 1⟩)) 0 1,
      .executeSingle (write (.single ⟨0, 0⟩)) 2 3, .executeSingle (write (.single ⟨0, 1⟩)) 4 5,
      .call 6 (.begin ∅)]
    let start : Sheet := { store, config }
    let sheet := start.after events
    let tally := start.tally events
    config.autoRollback = true ∧ sheet.stats.batchesStarted = 4 ∧
      sheet.stats.batchesStarted = sheet.activeBatches.length + sheet.stats.batchesCommitted +
        sheet.stats.batchesRolledBack + sheet.stats.batchesCancelled + tally.discarded ∧
      sheet.activeBatches.length = 1 ∧ tally.discarded = 1 ∧
      sheet.stats.rollbackFailures = tally.alarms ∧ tally.alarms = 1 ∧
      sheet.stats.cellsModified = tally.reported ∧ tally.reported = 1 := by
  intro config store write events start sheet tally
  obtain ⟨balance, alarms, _, cells, _⟩ := @stats_balanced store config rfl events
  exact ⟨rfl, by decide +kernel, balance, by decide +kernel, by decide +kernel, alarms,
    by decide +kernel, cells, by decide +kernel⟩

-- A commit that answers with a result is counted with the cells it altered, in either mode.
theorem stats_of_commits (store : Store) (config : SheetConfig) (events : List Event) :
    let start : Sheet := { store, config }
    let sheet := start.after events
    let tally := start.tally events
    sheet.stats.batchesCommitted + tally.stuck = tally.committed ∧
      sheet.stats.cellsModified = tally.altered ∧
      tally.stuck ≤ tally.alarms ∧
      (config.autoRollback = true → tally.stuck = 0) := by
  intro start sheet tally
  have reachable : start.Reachable := .start store config
  have booked : start.Booked tally sheet := reachable.after_booked events
  obtain ⟨_, commits, cells, _, altered, _, sounded, _, strict, _⟩ := booked.posted
  have none : start.stats = {} := rfl
  simp only [none, Nat.zero_add] at commits cells
  exact ⟨commits, cells.trans altered.symm, sounded, fun rollback => (strict rollback).1⟩

-- The second operation can neither write nor be put back. The batch is committed and keeps what the
-- first operation did, and neither is counted.
theorem stats_of_commits_stuck :
    let start : Sheet :=
      { store := { faults := { writes := [2, 3] } }, config := { autoRollback := false } }
    let events : List Event := [.call 0 (.begin ∅),
      .call 1 (.add ⟨1⟩ (.overwriteText (.single ⟨0, 0⟩) "x")),
      .call 2 (.add ⟨1⟩ (.overwriteText (.single ⟨0, 1⟩) "y")), .call 3 (.commit ⟨1⟩)]
    let sheet := start.after events
    (sheet.batch? ⟨1⟩).map (·.state) = some .committed ∧ (start.tally events).committed = 1 ∧
      sheet.store.cells = (∅ : Cells).insert ⟨0, 0⟩ (.text "x") ∧
      sheet.stats.batchesCommitted = 0 ∧ sheet.stats.cellsModified = 0 :=
  ⟨rfl, rfl, rfl, rfl, rfl⟩

end Sheet

end CellLedger
