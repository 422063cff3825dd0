import CellLedger.Proofs.Batch.Run
import CellLedger.Sheet.Commit

/-!
How the commit of an open batch can end: `carryOut_carriedOut`. Every end but the rejection closes
the batch, and each says what became of the store.
-/

set_option autoImplicit false

namespace CellLedger

/-- What holds of every batch that is tracked: its cells are registered to the operations that
target them, and nothing is captured before the commit. -/
structure Batch.Sound (b : Batch) : Prop where
  owned : b.Owned
  fresh : b.isActive = true → b.captured = ∅

theorem Batch.Sound.closed {b : Batch} (sound : b.Sound)
    (captured : SortedMap Address (Option Value)) {state : BatchState} (closed : state ≠ .active) :
    Batch.Sound { b with captured, state } where
  owned := sound.owned.of_operations_eq rfl rfl
  fresh active := absurd (of_decide_eq_true active) closed

namespace Sheet

def close (sheet : Sheet) (b : Batch) (captured : SortedMap Address (Option Value))
    (state : BatchState) (store : Store) (stats : Stats) : Sheet :=
  { sheet.putBatch { b with captured, state } with store, stats }

section Closing

variable {sheet : Sheet} {b : Batch} {captured : SortedMap Address (Option Value)}
  {state : BatchState} {store : Store} {stats : Stats}

theorem batch?_close : (sheet.close b captured state store stats).batch? b.id =
    some { b with captured, state } := by
  simp [close, batch?, putBatch, SortedMap.get?_insert]

theorem state_close :
    ((sheet.close b captured state store stats).batch? b.id).map (·.state) = some state := by
  rw [batch?_close]
  rfl

end Closing

/-- A commit is given up: at the store `s`, and all that is captured is to be put back. -/
inductive Setback (sheet : Sheet) (b : Batch) :
    Run → SortedMap Address (Option Value) → Store → Stats → Prop
  | uncaptured {e : StoreError} {captured : SortedMap Address (Option Value)} {s : Store}
      (capture : b.capture sheet.store = (.error e, { b with captured }, s)) :
      Setback sheet b { errors := ["critical batch error: " ++ e.message] } captured s sheet.stats
  | abandoned {n : Nat} {captured : SortedMap Address (Option Value)} {s t : Store} {run : Run}
      (capture : b.capture sheet.store = (.ok n, { b with captured }, s))
      (same : s.cells = sheet.store.cells)
      (attempt : Batch.run { b with captured } sheet.config.autoRollback s = (run, t))
      (ran : Ran b.id sheet.config.autoRollback s t b.operations run)
      (ending : run.ending = .abandoned) :
      Setback sheet b run captured t (sheet.stats.recordRun run)

inductive CarriedOut (sheet : Sheet) (b : Batch) : Except BatchError BatchResult × Sheet → Prop
  | rolledBack {run : Run} {captured : SortedMap Address (Option Value)} {s t : Store}
      {stats : Stats} (setback : Setback sheet b run captured s stats)
      (intact : t.cells = sheet.store.cells) :
      CarriedOut sheet b
        (.ok (.rolledBack b run), sheet.close b captured .rolledBack t stats.recordRollback)
  | unrestored {run : Run} {captured : SortedMap Address (Option Value)} {s t : Store}
      {stats : Stats} {refused : List Address} {reason : String}
      (setback : Setback sheet b run captured s stats)
      (inside : ∀ a ∈ refused, Operation.Targeted b.operations a)
      (intact : ∀ a, a ∉ refused → t.cells.get? a = sheet.store.cells.get? a) :
      CarriedOut sheet b
        (.error (.rollbackFailed b.id refused reason),
          sheet.close b captured .rolledBack t stats.recordRollback.recordRollbackFailure)
  | stuck {n : Nat} {captured : SortedMap Address (Option Value)} {s t : Store} {run : Run}
      {e : BatchError} (capture : b.capture sheet.store = (.ok n, { b with captured }, s))
      (same : s.cells = sheet.store.cells)
      (attempt : Batch.run { b with captured } sheet.config.autoRollback s = (run, t))
      (ran : Ran b.id sheet.config.autoRollback s t b.operations run)
      (ending : run.ending = .stuck e) :
      CarriedOut sheet b
        (.error e, sheet.close b captured .committed t
          (sheet.stats.recordRun run).recordRollbackFailure)
  | finished {n : Nat} {captured : SortedMap Address (Option Value)} {s t : Store} {run : Run}
      (capture : b.capture sheet.store = (.ok n, { b with captured }, s))
      (same : s.cells = sheet.store.cells)
      (attempt : Batch.run { b with captured } sheet.config.autoRollback s = (run, t))
      (ran : Ran b.id sheet.config.autoRollback s t b.operations run)
      (ending : run.ending = .finished) :
      CarriedOut sheet b
        (.ok (.committed b run), sheet.close b captured .committed t
          ((sheet.stats.recordRun run).recordCommit
            (BatchResult.committed b run).totalCellsModified))

theorem rollBackAfter_carriedOut {sheet : Sheet} {b : Batch} {run : Run} {cells : List Address}
    {s : Store} {stats : Stats}
    (setback : Setback sheet b run (sheet.store.cells.snapshot cells) s stats)
    (targeted : ∀ a ∈ cells, Operation.Targeted b.operations a)
    (elsewhere : ∀ a, a ∉ cells → s.cells.get? a = sheet.store.cells.get? a) :
    CarriedOut sheet b
      (rollBackAfter { sheet with store := s, stats }
        { b with captured := sheet.store.cells.snapshot cells } run) := by
  rcases restore_snapshot elsewhere b.id with
    ⟨refused, reason, t, restored, inside, intact, _⟩ | ⟨n, t, restored, intact, _⟩
  · simp only [rollBackAfter, putBack, restored]
    exact .unrestored setback (fun a member => targeted a (inside a member)) intact
  · simp only [rollBackAfter, putBack, restored]
    exact .rolledBack setback intact

theorem capturedOf_snapshot {b : Batch} {contents : Cells} {op : Operation} {cells : List Address}
    (within : ∀ a ∈ op.selection.cells, a ∈ cells) :
    { b with captured := contents.snapshot cells }.capturedOf op =
      contents.snapshot op.selection.cells := by
  refine SortedMap.ext_get? fun a => ?_
  rw [Batch.capturedOf, SortedMap.get?_filter, Cells.get?_snapshot, Cells.get?_snapshot]
  by_cases member : a ∈ op.selection.cells
  · simp [member, within a member, Selection.contains]
  · by_cases captured : a ∈ cells <;> simp [member, captured, Selection.contains]

theorem captures_snapshot {b : Batch} (owned : b.Owned) {contents : Cells} {s : Store}
    (same : s.cells = contents) :
    Batch.Captures { b with captured := contents.snapshot b.owners.keys } b.operations s := by
  intro op listed
  rw [same]
  exact capturedOf_snapshot fun a member => owned.mem_owners_iff.2 ⟨op, listed, member⟩

theorem carryOut_of_run {sheet : Sheet} {b c : Batch} {n : Nat} {s t : Store} {run : Run}
    (capture : b.capture sheet.store = (.ok n, c, s))
    (attempt : c.run sheet.config.autoRollback s = (run, t)) :
    sheet.carryOut b =
      settle { sheet with store := t, stats := sheet.stats.recordRun run } c run := by
  simp only [carryOut, capture, attempt]

theorem carryOut_carriedOut (sheet : Sheet) {b : Batch} (sound : b.Sound)
    (isOpen : b.isActive = true) : CarriedOut sheet b (sheet.carryOut b) := by
  have targeted : ∀ a ∈ b.owners.keys, Operation.Targeted b.operations a :=
    fun a => sound.owned.mem_owners_iff.1
  rcases Batch.capture_cases (sound.fresh isOpen) sheet.store with
    ⟨e, s, read, a, rest, split, capture, same, _⟩ | ⟨s, capture, same, _⟩
  · simp only [carryOut, capture]
    have unaltered (a : Address) : s.cells.get? a = sheet.store.cells.get? a := by rw [same]
    refine rollBackAfter_carriedOut (.uncaptured capture) (fun b member => ?_)
      fun a _ => unaltered a
    exact targeted b (by simp [split, member])
  · -- Capturing only reads, so that the run starts from the contents that were captured.
    let captured := { b with captured := sheet.store.cells.snapshot b.owners.keys }
    have ran : Ran b.id sheet.config.autoRollback s (captured.run sheet.config.autoRollback s).2
        b.operations (captured.run sheet.config.autoRollback s).1 :=
      captured.runFrom_ran sheet.config.autoRollback 0 sound.owned.apart s
        (captures_snapshot sound.owned same)
    generalize attempt : captured.run sheet.config.autoRollback s = outcome at ran
    obtain ⟨run, t⟩ := outcome
    rw [carryOut_of_run capture attempt]
    cases ending : run.ending with
    | finished =>
      simp only [settle, ending]
      exact .finished capture same attempt ran ending
    | stuck e =>
      simp only [settle, ending]
      exact .stuck capture same attempt ran ending
    | abandoned =>
      simp only [settle, ending]
      refine rollBackAfter_carriedOut (.abandoned capture same attempt ran ending) targeted
        fun a outside => ?_
      rw [ran.touches.frame fun aimed => outside (sound.owned.mem_owners_iff.2 aimed), same]

end Sheet

end CellLedger
