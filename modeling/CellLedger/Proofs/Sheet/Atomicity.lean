import CellLedger.Proofs.Sheet.Contents

/-!
What a commit leaves of the store. With automatic rollback a batch takes effect as a whole or not at
all (`commit_atomic`); without it every operation does (`commit_atomic_each`).
-/

set_option autoImplicit false

namespace CellLedger

namespace Sheet

variable {sheet : Sheet} {b : Batch} {outcome : Except BatchError BatchResult × Sheet}

theorem CarriedOut.elsewhere (carriedOut : CarriedOut sheet b outcome) {a : Address}
    (untargeted : ¬ Operation.Targeted b.operations a) :
    outcome.2.store.cells.get? a = sheet.store.cells.get? a := by
  cases carriedOut with
  | rolledBack _ intact => simp only [close, intact]
  | unrestored _ inside intact => exact intact a fun member => untargeted (inside a member)
  | stuck _ same _ ran => simp only [close, ran.touches.frame untargeted, same]
  | finished _ same _ ran => simp only [close, ran.touches.frame untargeted, same]

theorem commit_elsewhere (sound : sheet.Sound) {id : BatchId} (held : sheet.batch? id = some b)
    (isOpen : b.isActive = true) (now : Instant) {a : Address}
    (untargeted : ¬ Operation.Targeted b.operations a) :
    (sheet.commit id now).2.store.cells.get? a = sheet.store.cells.get? a := by
  rcases commit_of_open held isOpen now with ⟨_, run⟩ | ⟨_, run⟩
  · rw [run]
  · rw [run]
    exact (sheet.carryOut_carriedOut (sound id b held).2 isOpen).elsewhere untargeted

theorem commit_atomic (reachable : sheet.Reachable) (rollback : sheet.config.autoRollback = true)
    {id : BatchId} (held : sheet.batch? id = some b) (isOpen : b.isActive = true) (now : Instant) :
    (match sheet.commit id now with
      | (.ok result, after) =>
        if result.success then
          after.store.cells = (Operation.executeAll b.operations (.ofCells sheet.store.cells)).cells
        else after.store.cells = sheet.store.cells
      | (.error (.rollbackFailed _ failed _), after) =>
        ∀ a, a ∉ failed → after.store.cells.get? a = sheet.store.cells.get? a
      | (.error _, _) => False) ∧
    ∀ a, ¬ Operation.Targeted b.operations a →
      (sheet.commit id now).2.store.cells.get? a = sheet.store.cells.get? a := by
  refine ⟨?_, fun a => commit_elsewhere reachable.sound held isOpen now⟩
  have whole := commit_whole reachable.sound rollback held isOpen now
  generalize sheet.commit id now = outcome at whole ⊢
  obtain ⟨reply, after⟩ := outcome
  rcases whole with ⟨result, rfl, success, _, cells⟩ | ⟨result, rfl, failure, same⟩ |
    ⟨refused, reason, rfl, intact⟩
  · have plan : (Store.ofCells sheet.store.cells).Healthy := rfl
    simp only [success, if_true, Operation.cells_executeAll_of_healthy plan]
    exact cells
  · simpa [failure] using same
  · exact intact

theorem commit_atomic_second_write_refused :
    let sheet := opened { faults := { writes := [2] } } {}
      (.overwriteText (.range ⟨0, 0⟩ ⟨0, 1⟩) "x")
    (∃ result, (sheet.commit ⟨1⟩ 2).1 = .ok result ∧ result.success = false) ∧
      (sheet.commit ⟨1⟩ 2).2.store.cells = ∅ := by
  intro sheet
  refine ⟨⟨_, rfl, rfl⟩, ?_⟩
  have held : sheet.batch? ⟨1⟩ = some _ := rfl
  exact (commit_atomic (opened_reachable _ _ _) rfl held rfl 2).1

end Sheet

/-- A successful operation has its whole effect on the contents before, and a failed one none. -/
def Operation.AllOrNothing (before after : Cells) (op : Operation) (result : OperationResult) :
    Prop :=
  ∀ a ∈ op.selection.cells, after.get? a =
    if result.success then (op.execute (.ofCells before)).2.cells.get? a else before.get? a

theorem Settled.allOrNothing {before after : Cells} {op : Operation} {result : OperationResult}
    (settled : Settled before after op result) : op.AllOrNothing before after result := by
  intro a member
  have plan : (Store.ofCells before).Healthy := rfl
  obtain ⟨_, cells, _⟩ := Operation.execute_of_healthy plan op
  by_cases success : result.success = true
  · rw [if_pos success, cells, Operation.get?_apply, settled.effect success a member]
    rfl
  · rw [if_neg success, settled.intact (by simpa using success) a member]

namespace Sheet

variable {sheet : Sheet} {b : Batch}

/-- The run of the batch's operations on what its cells are captured to hold. -/
def attempt (sheet : Sheet) (b : Batch) : Run :=
  let (_, captured, store) := b.capture sheet.store
  (captured.run sheet.config.autoRollback store).1

/-- The commit of the batch ended at the operation `op`, whose cells `refused` could not be put
back. -/
structure StuckAt (sheet after : Sheet) (b : Batch) (refused : List Address)
    (kept : List Operation) (op : Operation) (later : List Operation) : Prop where
  listed : b.operations = kept ++ op :: later
  /-- The results are those of the operations up to `op`, which failed. -/
  earlier : ∃ results last, (sheet.attempt b).results = results ++ [last] ∧
    last.success = false ∧
    List.Forall₂ (Operation.AllOrNothing sheet.store.cells after.store.cells) kept results
  intact : ∀ a ∈ op.selection.cells, a ∉ refused →
    after.store.cells.get? a = sheet.store.cells.get? a
  inside : ∀ a ∈ refused, a ∈ op.selection.cells
  /-- From the capture on no cell of a later operation is even accessed. -/
  unexecuted : (b.capture sheet.store).2.2.Touches after.store fun a =>
    ¬ Operation.Targeted later a
  untouched : ∀ a, Operation.Targeted later a →
    after.store.cells.get? a = sheet.store.cells.get? a
  counted : after.stats.operationsExecuted = sheet.stats.operationsExecuted + (kept.length + 1)
  closed : (after.batch? b.id).map (·.state) = some .committed

-- Once everything is captured, only a sheet that rolls whole batches back gives a commit up.
theorem Setback.rollback {run : Run} {contents : SortedMap Address (Option Value)} {s : Store}
    {stats : Stats} (setback : Setback sheet b run contents s stats) {n : Nat}
    (captured : (b.capture sheet.store).1 = .ok n) : sheet.config.autoRollback = true := by
  cases setback with
  | uncaptured capture => simp [capture] at captured
  | abandoned _ _ _ ran ending => exact (ran.of_abandoned ending).1

theorem CarriedOut.stuckAt {e : BatchError} {after : Sheet} (sound : b.Sound) {n : Nat}
    (captured : (b.capture sheet.store).1 = .ok n)
    (partially : sheet.config.autoRollback = false)
    (carriedOut : CarriedOut sheet b (.error e, after)) :
    ∃ refused reason kept op later, e = .rollbackFailed b.id refused reason ∧
      sheet.StuckAt after b refused kept op later := by
  cases carriedOut with
  | unrestored setback => simp [setback.rollback captured] at partially
  | @stuck _ contents s t run _ capture same attempted ran ending =>
    obtain ⟨_, kept, op, later, results, cause, refused, reason, listed, reported, rfl, settled,
      inside, intact, touches⟩ := ran.of_stuck ending
    have isRun : sheet.attempt b = run := by simp only [attempt, capture, attempted]
    have earlier : kept.length = results.length := settled.length_eq
    have unexecuted : s.Touches t fun a => ¬ Operation.Targeted later a := by
      have apart := sound.owned.apart
      rw [listed, List.append_cons, List.pairwise_append] at apart
      refine touches.mono fun a ⟨p, executed, member⟩ ⟨q, waiting, memberToo⟩ => ?_
      exact apart.2.2 p executed q waiting a member memberToo
    rw [same] at settled intact
    refine ⟨refused, reason, kept, op, later, rfl, listed,
      ⟨results, .failed op.kind [cause], ?_, rfl, ?_⟩, intact, inside, ?_, fun a targeted => ?_,
      ?_, state_close⟩
    · rw [isRun, reported]
    · exact settled.imp fun _ _ settled => settled.allOrNothing
    · rw [capture]
      exact unexecuted
    · rw [← same]
      exact unexecuted.frame fun free => free targeted
    · simp [close, Stats.recordRollbackFailure, Stats.recordRun, reported, earlier]

theorem commit_atomic_each (reachable : sheet.Reachable)
    (partially : sheet.config.autoRollback = false) {id : BatchId}
    (held : sheet.batch? id = some b) (isOpen : b.isActive = true) (now : Instant)
    (valid : sheet.objections b now = []) {n : Nat} (captured : (b.capture sheet.store).1 = .ok n) :
    match sheet.commit id now with
      | (.ok result, after) =>
        result.results = (sheet.attempt b).results ∧
          after.stats.operationsExecuted =
            sheet.stats.operationsExecuted + b.operations.length ∧
          List.Forall₂ (Operation.AllOrNothing sheet.store.cells after.store.cells) b.operations
            result.results
      | (.error (.rollbackFailed _ refused _), after) =>
        ∃ kept op later, sheet.StuckAt after b refused kept op later
      | (.error _, _) => False := by
  have batch := (reachable.sound id b held).2
  rcases commit_of_open held isOpen now with ⟨invalid, _⟩ | ⟨_, run⟩
  · exact absurd valid invalid
  rw [run]
  have carriedOut := sheet.carryOut_carriedOut batch isOpen
  generalize sheet.carryOut b = outcome at carriedOut ⊢
  cases carriedOut with
  | rolledBack setback => simp [setback.rollback captured] at partially
  | unrestored setback => simp [setback.rollback captured] at partially
  | stuck capture same attempted ran ending =>
    obtain ⟨refused, reason, kept, op, later, rfl, stuckAt⟩ :=
      CarriedOut.stuckAt batch captured partially (.stuck capture same attempted ran ending)
    exact ⟨kept, op, later, stuckAt⟩
  | finished capture same attempted ran ending =>
    obtain ⟨settled, _, _⟩ := ran.of_finished ending
    have counted := settled.length_eq
    rw [same] at settled
    refine ⟨by simp only [BatchResult.committed, attempt, capture, attempted], ?_, ?_⟩
    · simp [close, Stats.recordCommit, Stats.recordRun, counted]
    · exact settled.imp fun _ _ settled => settled.allOrNothing

theorem commit_atomic_each_restore_refused :
    let sheet := opened { faults := { writes := [2, 3] } } { autoRollback := false }
      (.overwriteText (.range ⟨0, 0⟩ ⟨0, 1⟩) "x")
    ∃ b, sheet.batch? ⟨1⟩ = some b ∧
      ∃ kept op later, sheet.StuckAt (sheet.commit ⟨1⟩ 2).2 b [⟨0, 0⟩] kept op later := by
  intro sheet
  have held : sheet.batch? ⟨1⟩ = some _ := rfl
  exact ⟨_, held,
    @commit_atomic_each sheet _ (opened_reachable _ _ _) rfl ⟨1⟩ held rfl 2 rfl 2 rfl⟩

end Sheet

end CellLedger
