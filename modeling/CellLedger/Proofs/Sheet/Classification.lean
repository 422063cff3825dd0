import CellLedger.Proofs.Sheet.Atomicity

/-!
The four ways in which the commit of an open batch ends. Every commit ends in exactly one of them
(`commit_classified`), which is told from the answer and the state of the batch (`told`). It is
rejected exactly if problems are looked for and found (`told_eq_rejected_iff`).
-/

set_option autoImplicit false

namespace CellLedger

theorem Settled.report_or_failed {before after : Cells} {op : Operation} {result : OperationResult}
    (settled : Settled before after op result) :
    result = op.report before ∨ ∃ cause, result = .failed op.kind [cause] := by
  cases settled with
  | kept => exact .inl rfl
  | reverted cause => exact .inr ⟨cause, rfl⟩

namespace Sheet

inductive CommitEnd where
  | rejected
  | rolledBack
  | committed
  | failed
  deriving DecidableEq, Repr

/-- The sheet finds no problem with the batch, or does not look for any. -/
def Passes (sheet : Sheet) (b : Batch) (now : Instant) : Prop :=
  sheet.config.validateFirst = true → b.problems sheet.config now = []

structure Rejected (sheet : Sheet) (b : Batch) (now : Instant) (result : BatchResult)
    (after : Sheet) : Prop where
  validates : sheet.config.validateFirst = true
  problems : b.problems sheet.config now ≠ []
  failure : result.success = false
  kept : result.wasRolledBack = false
  errors : result.errors = b.problems sheet.config now
  results : result.results = []
  -- Neither the batch nor the store nor a counter is altered.
  unchanged : after = sheet

/-- A cell could not be read, so that no operation was executed. -/
structure Uncaptured (sheet : Sheet) (b : Batch) (result : BatchResult) : Prop where
  results : result.results = []
  errors : ∃ e, (b.capture sheet.store).1 = .error e ∧
    result.errors = ["critical batch error: " ++ e.message]

/-- The results are those of the operations up to the first one that failed. -/
structure GivenUp (sheet : Sheet) (b : Batch) (result : BatchResult) : Prop where
  captured : ∃ n, (b.capture sheet.store).1 = .ok n
  rollback : sheet.config.autoRollback = true
  results : ∃ kept op later cause, b.operations = kept ++ op :: later ∧
    result.results = kept.map (·.report sheet.store.cells) ++ [.failed op.kind [cause]] ∧
    result.errors = [(BatchError.operationFailed kept.length op.description cause).message]

structure RolledBack (sheet : Sheet) (b : Batch) (now : Instant) (result : BatchResult)
    (after : Sheet) : Prop where
  valid : sheet.Passes b now
  failure : result.success = false
  undone : result.wasRolledBack = true
  total : result.totalCellsModified = 0
  changes : result.changes = ∅
  closed : (after.batch? b.id).map (·.state) = some .rolledBack
  cause : sheet.Uncaptured b result ∨ sheet.GivenUp b result

structure Committed (sheet : Sheet) (b : Batch) (now : Instant) (result : BatchResult)
    (after : Sheet) : Prop where
  valid : sheet.Passes b now
  captured : ∃ n, (b.capture sheet.store).1 = .ok n
  kept : result.wasRolledBack = false
  complete : result.results.length = result.operationCount
  -- The results stand in the order in which the operations are registered.
  results : List.Forall₂ (fun op r => r = op.report sheet.store.cells ∨
    ∃ cause, r = .failed op.kind [cause]) b.operations result.results
  errors : result.errors = Batch.failureTexts 0 b.operations result.results
  success : result.success = true ↔ result.errors = []
  clean : result.errors = [] ↔ ∀ r ∈ result.results, r.success = true
  strict : sheet.config.autoRollback = true → result.success = true
  closed : (after.batch? b.id).map (·.state) = some .committed

/-- Contents could not be put back: those of the whole batch, or of one operation. -/
structure Failed (sheet : Sheet) (b : Batch) (now : Instant) (e : BatchError) (after : Sheet) :
    Prop where
  valid : sheet.Passes b now
  fatal : ∃ refused reason, e = .rollbackFailed b.id refused reason
  counted : after.stats.rollbackFailures = sheet.stats.rollbackFailures + 1
  closed : (after.batch? b.id).map (·.state) =
    some (if sheet.config.autoRollback ∨ (b.capture sheet.store).1.toOption = none then .rolledBack
      else .committed)

def Ends (sheet : Sheet) (b : Batch) (now : Instant)
    (outcome : Except BatchError BatchResult × Sheet) : CommitEnd → Prop
  | .rejected => ∃ result, outcome.1 = .ok result ∧ sheet.Rejected b now result outcome.2
  | .rolledBack => ∃ result, outcome.1 = .ok result ∧ sheet.RolledBack b now result outcome.2
  | .committed => ∃ result, outcome.1 = .ok result ∧ sheet.Committed b now result outcome.2
  | .failed => ∃ e, outcome.1 = .error e ∧ sheet.Failed b now e outcome.2

-- The way of ending, as the answer and the batch tell it. Only a rejected batch is still open.
def told (id : BatchId) : Except BatchError BatchResult × Sheet → CommitEnd
  | (.error _, _) => .failed
  | (.ok result, after) =>
    if result.wasRolledBack then .rolledBack
    else if (after.batch? id).any (·.isActive) then .rejected
    else .committed

variable {sheet : Sheet} {b : Batch} {id : BatchId} {now : Instant}

theorem passes_iff : sheet.Passes b now ↔ sheet.objections b now = [] := by
  simp only [Passes, objections, ite_eq_right_iff]

theorem Ends.told_eq {outcome : Except BatchError BatchResult × Sheet} {ending : CommitEnd}
    (held : sheet.batch? b.id = some b) (isOpen : b.isActive = true)
    (ends : sheet.Ends b now outcome ending) : told b.id outcome = ending := by
  obtain ⟨reply, after⟩ := outcome
  cases ending with
  | rejected =>
    obtain ⟨result, rfl, rejected⟩ := ends
    obtain rfl := rejected.unchanged
    simp [told, rejected.kept, held, isOpen]
  | rolledBack =>
    obtain ⟨result, rfl, rolledBack⟩ := ends
    simp [told, rolledBack.undone]
  | committed =>
    obtain ⟨result, rfl, committed⟩ := ends
    obtain ⟨c, found, state⟩ := Option.map_eq_some_iff.1 committed.closed
    simp [told, committed.kept, found, Batch.isActive, state]
  | failed =>
    obtain ⟨e, rfl, _⟩ := ends
    rfl

theorem Ends.eq_rejected_iff {outcome : Except BatchError BatchResult × Sheet} {ending : CommitEnd}
    (ends : sheet.Ends b now outcome ending) : ending = .rejected ↔ ¬ sheet.Passes b now := by
  cases ending with
  | rejected =>
    obtain ⟨result, _, rejected⟩ := ends
    exact iff_of_true rfl fun passes => rejected.problems (passes rejected.validates)
  | rolledBack =>
    obtain ⟨result, _, rolledBack⟩ := ends
    exact iff_of_false (by simp) (not_not_intro rolledBack.valid)
  | committed =>
    obtain ⟨result, _, committed⟩ := ends
    exact iff_of_false (by simp) (not_not_intro committed.valid)
  | failed =>
    obtain ⟨e, _, failed⟩ := ends
    exact iff_of_false (by simp) (not_not_intro failed.valid)

theorem errors_of_run {c : Batch} {autoRollback : Bool} {s t : Store} {run : Run}
    (attempted : c.run autoRollback s = (run, t)) :
    run.errors = Batch.failureTexts 0 c.operations run.results := by
  have texts := c.runFrom_errors autoRollback 0 c.operations s
  rwa [show c.runFrom autoRollback 0 c.operations s = (run, t) from attempted] at texts

theorem Setback.cause {run : Run} {captured : SortedMap Address (Option Value)} {s : Store}
    {stats : Stats} (setback : Setback sheet b run captured s stats) :
    sheet.Uncaptured b (.rolledBack b run) ∨ sheet.GivenUp b (.rolledBack b run) := by
  cases setback with
  | uncaptured capture => exact .inl ⟨rfl, _, by rw [capture], rfl⟩
  | abandoned capture same attempted ran ending =>
    obtain ⟨rollback, kept, op, later, results, cause, listed, reported, settled, clean⟩ :=
      ran.of_abandoned ending
    have texts := errors_of_run attempted
    simp only [listed, reported] at texts
    rw [Batch.failureTexts_of_last 0 settled.length_eq clean rfl] at texts
    rw [results_of_all_kept settled clean, same] at reported
    refine .inr ⟨⟨_, by rw [capture]⟩, rollback, kept, op, later, cause, listed, reported, ?_⟩
    simpa [OperationResult.failed, BatchResult.rolledBack] using texts

theorem Setback.rollbackFailures {run : Run} {captured : SortedMap Address (Option Value)}
    {s : Store} {stats : Stats} (setback : Setback sheet b run captured s stats) :
    stats.rollbackFailures = sheet.stats.rollbackFailures := by
  cases setback <;> rfl

theorem CarriedOut.ends {outcome : Except BatchError BatchResult × Sheet}
    (carriedOut : CarriedOut sheet b outcome) (valid : sheet.Passes b now) :
    ∃ ending, sheet.Ends b now outcome ending := by
  cases carriedOut with
  | rolledBack setback =>
    exact ⟨.rolledBack, _, rfl, valid, rfl, rfl, rfl, rfl, state_close, setback.cause⟩
  | unrestored setback =>
    refine ⟨.failed, _, rfl, valid, ⟨_, _, rfl⟩, ?_, ?_⟩
    · simp [close, Stats.recordRollbackFailure, Stats.recordRollback, setback.rollbackFailures]
    · rw [state_close]
      rcases setback.cause with ⟨_, e, capture, _⟩ | ⟨_, rollback, _⟩
      · simp [capture, Except.toOption]
      · simp [rollback]
  | stuck capture _ attempted ran ending =>
    obtain ⟨partially, _, _, _, _, _, _, _, _, _, rfl, _⟩ := ran.of_stuck ending
    refine ⟨.failed, _, rfl, valid, ⟨_, _, rfl⟩, rfl, ?_⟩
    simp [state_close, partially, capture, Except.toOption]
  | finished capture same attempted ran ending =>
    obtain ⟨settled, clean, strict⟩ := ran.of_finished ending
    have texts := errors_of_run attempted
    refine ⟨.committed, _, rfl, valid, ⟨_, by rw [capture]⟩, rfl, settled.length_eq.symm, ?_,
      texts, by simp [BatchResult.committed], clean, ?_, state_close⟩
    · rw [← same]
      exact settled.imp fun _ _ settled => settled.report_or_failed
    · exact fun rollback => by simp [BatchResult.committed, strict rollback]

theorem commit_ends (batch : b.Sound) (held : sheet.batch? b.id = some b)
    (isOpen : b.isActive = true) (now : Instant) :
    ∃ ending, sheet.Ends b now (sheet.commit b.id now) ending := by
  rcases commit_of_open held isOpen now with ⟨invalid, run⟩ | ⟨none, run⟩
  · rw [run]
    by_cases validates : sheet.config.validateFirst = true
    · have problems : sheet.objections b now = b.problems sheet.config now := if_pos validates
      rw [problems] at invalid ⊢
      exact ⟨.rejected, _, rfl, validates, invalid, rfl, rfl, rfl, rfl, rfl⟩
    · exact absurd (if_neg validates) invalid
  · rw [run]
    exact (sheet.carryOut_carriedOut batch isOpen).ends (passes_iff.2 none)

theorem told_eq_rejected_iff (batch : b.Sound) (held : sheet.batch? b.id = some b)
    (isOpen : b.isActive = true) (now : Instant) :
    told b.id (sheet.commit b.id now) = .rejected ↔ sheet.objections b now ≠ [] := by
  obtain ⟨ending, ends⟩ := commit_ends batch held isOpen now
  rw [ends.told_eq held isOpen, ends.eq_rejected_iff, passes_iff]

theorem commit_classified (reachable : sheet.Reachable) (held : sheet.batch? id = some b)
    (isOpen : b.isActive = true) (now : Instant) :
    ∃! ending, sheet.Ends b now (sheet.commit id now) ending := by
  obtain ⟨rfl, batch⟩ := reachable.sound id b held
  obtain ⟨ending, ends⟩ := commit_ends batch held isOpen now
  refine ⟨ending, ends, fun other endsToo => ?_⟩
  rw [← ends.told_eq held isOpen, ← endsToo.told_eq held isOpen]

-- Without rollback of whole batches a refused write makes one operation fail and not the commit. An
-- operation without cells is a problem, for which the commit is rejected.
theorem commit_classified_refused :
    let refusing := opened { faults := { writes := [1] } } { autoRollback := false }
      (.overwriteText (.single ⟨0, 0⟩) "x")
    let flawed := opened {} {} (.clear .empty)
    (∃ b, refusing.batch? ⟨1⟩ = some b ∧
      (∃! ending, refusing.Ends b 2 (refusing.commit ⟨1⟩ 2) ending) ∧
      told ⟨1⟩ (refusing.commit ⟨1⟩ 2) = .committed) ∧
    ∃ b, flawed.batch? ⟨1⟩ = some b ∧
      b.problems flawed.config 2 = ["operation 0: empty selection"] ∧
      flawed.Ends b 2 (flawed.commit ⟨1⟩ 2) .rejected := by
  intro refusing flawed
  have held : refusing.batch? ⟨1⟩ = some _ := rfl
  have heldToo : flawed.batch? ⟨1⟩ = some _ := rfl
  refine ⟨⟨_, held, @commit_classified refusing _ ⟨1⟩ (opened_reachable _ _ _) held rfl 2, rfl⟩,
    _, heldToo, rfl, ?_⟩
  obtain ⟨ending, ends, _⟩ :=
    @commit_classified flawed _ ⟨1⟩ (opened_reachable _ _ _) heldToo rfl 2
  have rejected : ending = .rejected :=
    ends.eq_rejected_iff.2 fun passes => absurd (passes rfl) (List.cons_ne_nil _ _)
  exact rejected ▸ ends

end Sheet

end CellLedger
