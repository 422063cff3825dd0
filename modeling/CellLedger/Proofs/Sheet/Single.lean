import CellLedger.Proofs.Sheet.Admission

/-!
An operation carried out in a batch of its own. `SingleOutcome` tells how that ends; whichever way,
the batch is gone afterwards, and a number is all it took (`executeSingle_leaves_no_trace`).
-/

set_option autoImplicit false

namespace CellLedger.Sheet

/-- How an operation ends that is carried out on the store `s` in the batch with this number. -/
inductive SingleOutcome (id : BatchId) (config : SheetConfig) (op : Operation) (s : Store) :
    Except BatchError OperationResult → Store → Prop
  | full (full : config.maxOperations = 0) :
      SingleOutcome id config op s (.error (.sizeLimit config.maxOperations)) s
  | large (large : config.maxCells < op.selection.count) :
      SingleOutcome id config op s (.error (.cellLimit config.maxCells op.selection.count)) s
  | kept {t : Store} (effect : t.cells = op.apply s.cells) :
      SingleOutcome id config op s (.ok (op.report s.cells)) t
  | failed {result : OperationResult} {t : Store} (failure : result.success = false)
      (intact : t.cells = s.cells) : SingleOutcome id config op s (.ok result) t
  | unrestored {refused : List Address} {reason : String} {t : Store}
      (inside : ∀ a ∈ refused, a ∈ op.selection.cells)
      (intact : ∀ a, a ∉ refused → t.cells.get? a = s.cells.get? a) :
      SingleOutcome id config op s (.error (.rollbackFailed id refused reason)) t

variable {sheet : Sheet}

theorem eq_of_single {op p : Operation} {kept later : List Operation}
    (listed : [op] = kept ++ p :: later) : kept = [] ∧ p = op ∧ later = [] := by
  cases kept with
  | nil => simpa [eq_comm] using listed
  | cons => simp at listed

theorem Setback.results_of_single {b : Batch} {op : Operation} (single : b.operations = [op])
    {run : Run} {captured : SortedMap Address (Option Value)} {s : Store} {stats : Stats}
    (setback : Setback sheet b run captured s stats) :
    run.results = [] ∨ ∃ cause, run.results = [.failed op.kind [cause]] := by
  cases setback with
  | uncaptured => exact .inl rfl
  | abandoned _ _ _ ran ending =>
    obtain ⟨_, kept, p, later, results, cause, listed, reported, settled, _⟩ :=
      ran.of_abandoned ending
    -- The operation that is given up is the only one, so that none was kept before it.
    obtain ⟨rfl, rfl, _⟩ := eq_of_single (single.symm.trans listed)
    cases settled
    exact .inr ⟨cause, reported⟩

theorem carryOut_single {b : Batch} (batch : b.Sound) (isOpen : b.isActive = true)
    {op : Operation} (single : b.operations = [op]) (config : SheetConfig) :
    SingleOutcome b.id config op sheet.store ((sheet.carryOut b).1.map (singleResult op.kind))
      (sheet.carryOut b).2.store := by
  have carriedOut := sheet.carryOut_carriedOut batch isOpen
  generalize sheet.carryOut b = outcome at carriedOut ⊢
  cases carriedOut with
  | rolledBack setback intact =>
    refine .failed ?_ intact
    rcases setback.results_of_single single with none | ⟨cause, failed⟩
    · simp [singleResult, BatchResult.rolledBack, none, OperationResult.failed]
    · simp [singleResult, BatchResult.rolledBack, failed, OperationResult.failed]
  | unrestored _ inside intact =>
    refine .unrestored (fun a member => ?_) intact
    simpa [Operation.Targeted, single] using inside a member
  | stuck _ same _ ran ending =>
    obtain ⟨_, kept, p, later, _, _, refused, _, listed, _, rfl, _, inside, intact, touches⟩ :=
      ran.of_stuck ending
    obtain ⟨rfl, rfl, _⟩ := eq_of_single (single.symm.trans listed)
    refine .unrestored inside fun a accepted => ?_
    rw [← same]
    by_cases member : a ∈ p.selection.cells
    · exact intact a member accepted
    · exact touches.frame (by simp [Operation.Targeted, member])
  | @finished _ _ s t run _ same _ ran ending =>
    rw [single] at ran
    rcases ran.of_single ending with ⟨reported, cells⟩ | ⟨cause, reported, cells⟩
    · rw [same] at reported cells
      have result : singleResult op.kind (.committed b run) = op.report sheet.store.cells := by
        simp [singleResult, BatchResult.committed, reported]
      simp only [Except.map, result]
      exact .kept cells
    · refine .failed ?_ (cells.trans same)
      simp [singleResult, BatchResult.committed, reported, OperationResult.failed]

-- A new batch is open and has no operations, so that only the limits can stand in the way.
theorem SingleOutcome.of_refuses {config : SheetConfig} {op : Operation} {begun : Instant}
    {e : BatchError} {id : BatchId} (s : Store)
    (refuses : Batch.Refuses { id, startedAt := begun } config op e) :
    SingleOutcome id config op s (.error e) s := by
  cases refuses with
  | closed closed => exact absurd rfl closed
  | full _ full => exact .full (Nat.le_zero.1 full)
  | shared _ _ first => simpa using (first.owner _).2 rfl
  | large _ _ _ sum _ large =>
    obtain rfl : _ = op.selection.count := sum.trans (Nat.zero_add _)
    exact .large large

theorem add_begin_error {op : Operation} {begun : Instant} {e : BatchError} {t : Sheet}
    (refused : (sheet.begin ∅ begun).2.add ⟨sheet.nextId⟩ op = (.error e, t)) :
    t.store = sheet.store ∧
      SingleOutcome ⟨sheet.nextId⟩ sheet.config op sheet.store (.error e) sheet.store := by
  rw [add_begin] at refused
  have owned : Batch.Owned { id := ⟨sheet.nextId⟩, startedAt := begun } :=
    fun a i => by simp [Batch.owner?]
  have within : Batch.Within { id := ⟨sheet.nextId⟩, startedAt := begun } sheet.config :=
    ⟨rfl, Nat.zero_le _, Nat.zero_le _⟩
  split at refused
  next answer =>
    cases refused
    exact ⟨rfl, .of_refuses sheet.store ((owned.add_eq_error_iff within).1 answer)⟩
  · cases refused

/-- The calls begin, add and commit in a row, of which a refused registration is the last. -/
def inTurn (sheet : Sheet) (op : Operation) (begun now : Instant) :
    Except BatchError BatchResult × Sheet :=
  match (sheet.begin ∅ begun).2.add (sheet.begin ∅ begun).1 op with
  | (.error e, t) => (.error e, t)
  | (.ok (), t) => t.commit (sheet.begin ∅ begun).1 now

theorem executeSingle_eq_inTurn (sheet : Sheet) (op : Operation) (begun now : Instant) :
    sheet.executeSingle op begun now =
      ((sheet.inTurn op begun now).1.map (singleResult op.kind),
        (sheet.inTurn op begun now).2.forget ⟨sheet.nextId⟩) := by
  have number : (sheet.begin ∅ begun).1 = ⟨sheet.nextId⟩ := rfl
  rcases sheet.executeSingle_cases op begun now with ⟨e, t, step, run⟩ | ⟨t, step, run⟩
  · simp only [run, inTurn, number, step]
    rfl
  · simp only [run, inTurn, number, step]

theorem executeSingle_ends (sound : sheet.Sound) (op : Operation) (begun now : Instant) :
    SingleOutcome ⟨sheet.nextId⟩ sheet.config op sheet.store
      (sheet.executeSingle op begun now).1 (sheet.executeSingle op begun now).2.store := by
  have added := (sound.begin ∅ begun).add ⟨sheet.nextId⟩ op
  rcases sheet.executeSingle_cases op begun now with ⟨e, t, step, run⟩ | ⟨t, step, run⟩
  · obtain ⟨same, refused⟩ := add_begin_error step
    rw [run]
    simpa only [forget, same] using refused
  -- The operation was accepted, and `t` has an open batch of just this operation.
  obtain ⟨store, b, held, isOpen, single⟩ := add_begin_eq_ok step
  rw [step] at added
  obtain ⟨number, batch⟩ := added _ b held
  rw [run, ← store]
  simp only [forget]
  rcases commit_of_open held isOpen now with ⟨_, answer⟩ | ⟨_, answer⟩
  · rw [answer]
    exact .failed rfl rfl
  · rw [answer, ← number]
    exact carryOut_single batch isOpen single sheet.config

theorem executeSingle_settles (sound : sheet.Sound) {op : Operation} {begun now : Instant}
    (restored : ∀ e, (sheet.executeSingle op begun now).1 = .error e → e.isFatal = false) :
    (∃ result, (sheet.executeSingle op begun now).1 = .ok result ∧ result.success = true ∧
        result.changes.Between sheet.store.cells
          (sheet.executeSingle op begun now).2.store.cells ∧
        (sheet.executeSingle op begun now).2.store.cells = op.apply sheet.store.cells) ∨
      ((sheet.executeSingle op begun now).2.store.cells = sheet.store.cells ∧
        ∀ result, (sheet.executeSingle op begun now).1 = .ok result →
          result.success = false) := by
  have ends := executeSingle_ends sound op begun now
  generalize (sheet.executeSingle op begun now).1 = reply at ends restored ⊢
  generalize (sheet.executeSingle op begun now).2.store = t at ends ⊢
  cases ends with
  | full => exact .inr ⟨rfl, by simp⟩
  | large => exact .inr ⟨rfl, by simp⟩
  | kept effect =>
    refine .inl ⟨_, rfl, rfl, ?_, effect⟩
    rw [effect]
    exact op.changesOn_between sheet.store.cells
  | failed failure intact => exact .inr ⟨intact, by simp [failure]⟩
  | unrestored => simp [BatchError.isFatal] at restored

theorem executeSingle_frame (reachable : sheet.Reachable) (op : Operation) (begun now : Instant) :
    (sheet.executeSingle op begun now).2 =
      { sheet with
        nextId := sheet.nextId + 1
        store := (sheet.executeSingle op begun now).2.store
        stats := (sheet.executeSingle op begun now).2.stats } := by
  have batches : (sheet.executeSingle op begun now).2.batches = sheet.batches :=
    SortedMap.ext_get? (batch?_executeSingle reachable.sound reachable.numbered op begun now)
  obtain ⟨config, nextId⟩ := frame_executeSingle reachable.sound op begun now
  generalize (sheet.executeSingle op begun now).2 = after at batches config nextId ⊢
  cases after
  cases batches
  cases config
  cases nextId
  rfl

theorem executeSingle_leaves_no_trace (reachable : sheet.Reachable) (op : Operation)
    (begun now : Instant) :
    let row := sheet.inTurn op begun now
    let answer := (sheet.executeSingle op begun now).1
    let after := (sheet.executeSingle op begun now).2
    answer = row.1.map (singleResult op.kind) ∧
      after = { sheet with
        nextId := sheet.nextId + 1, store := row.2.store, stats := row.2.stats } ∧
      match answer with
      | .ok result =>
        if result.success then
          after.store.cells = (op.execute sheet.store.heal).2.cells ∧
            result.changes.Between sheet.store.cells after.store.cells
        else after.store.cells = sheet.store.cells
      | .error (.sizeLimit _) | .error (.cellLimit _ _) => after.store = sheet.store
      | .error (.rollbackFailed id refused _) =>
        id = ⟨sheet.nextId⟩ ∧ (∀ a ∈ refused, a ∈ op.selection.cells) ∧
          ∀ a, a ∉ refused → after.store.cells.get? a = sheet.store.cells.get? a
      | .error _ => False := by
  intro row answer after
  have inTurn := sheet.executeSingle_eq_inTurn op begun now
  have store : after.store = row.2.store := congrArg (·.2.store) inTurn
  have stats : after.stats = row.2.stats := congrArg (·.2.stats) inTurn
  refine ⟨congrArg Prod.fst inTurn, ?_, ?_⟩
  · rw [← store, ← stats]
    exact executeSingle_frame reachable op begun now
  · have ends : SingleOutcome ⟨sheet.nextId⟩ sheet.config op sheet.store answer after.store :=
      executeSingle_ends reachable.sound op begun now
    clear_value answer after
    generalize after.store = t at ends ⊢
    cases ends with
    | full => rfl
    | large => rfl
    | kept effect =>
      refine ⟨effect.trans (op.cells_execute_heal sheet.store).symm, ?_⟩
      rw [effect]
      exact op.changesOn_between sheet.store.cells
    | failed failure intact => simpa [failure] using intact
    | unrestored inside intact => exact ⟨rfl, inside, intact⟩

-- On a sheet that keeps what succeeded, with a batch open: the second write is refused, the first
-- one is put back.
theorem executeSingle_leaves_no_trace_refused :
    let sheet := opened { faults := { writes := [2] } } { autoRollback := false }
      (.overwriteText (.single ⟨0, 0⟩) "x")
    let op : Operation := .overwriteText (.range ⟨0, 0⟩ ⟨0, 1⟩) "y"
    let after := (sheet.executeSingle op 2 3).2
    sheet.Reachable ∧
      (∃ result, (sheet.executeSingle op 2 3).1 = .ok result ∧ result.success = false) ∧
      after.store.trace.size = 8 ∧ after.store.cells = sheet.store.cells ∧
      after = { sheet with
        nextId := 3
        store := (sheet.inTurn op 2 3).2.store
        stats := (sheet.inTurn op 2 3).2.stats } := by
  intro sheet op after
  have reachable : sheet.Reachable := opened_reachable _ _ _
  obtain ⟨_, frame, ending⟩ := executeSingle_leaves_no_trace reachable op 2 3
  have next : sheet.nextId = 2 := rfl
  have failed : (sheet.executeSingle op 2 3).1.map (·.success) = .ok false := by decide +kernel
  have accesses : after.store.trace.size = 8 := by decide +kernel
  rw [next] at frame
  cases answer : (sheet.executeSingle op 2 3).1 with
  | error e => simp [answer, Except.map] at failed
  | ok result =>
    have failure : result.success = false := by simpa [answer, Except.map] using failed
    simp only [answer, failure] at ending
    exact ⟨reachable, ⟨result, rfl, failure⟩, accesses, by simpa using ending, frame⟩

end CellLedger.Sheet
