import CellLedger.Proofs.Batch.Alarm
import CellLedger.Proofs.Sheet.Atomicity

/-!
What the error of a failed rollback says. A commit answers with it if and only if cells are left
with a refused write, whatever these cells hold (`commit_alarm`): a cell that cannot be written is
named even if it was never altered.
-/

set_option autoImplicit false

namespace CellLedger.Sheet

variable {sheet : Sheet} {b : Batch}

/-- What holds of the cells that a commit of `b` names: their last access was a refused write, their
contents at the start were captured, and each holds these or what its operation leaves. -/
structure Alarmed (before : Store) (after : Sheet) (b : Batch) (refused : List Address) : Prop where
  alarm : Alarm before after.store refused
  originals : ∃ c, after.batch? b.id = some c ∧
    ∀ a ∈ refused, c.captured.get? a = some (before.cells.get? a)
  partDone : Operation.PartDone b.operations before.cells after.store.cells

def Sounded (before : Store) (b : Batch) : Except BatchError BatchResult × Sheet → Prop
  | (.error e, after) => ∃ refused reason, e = .rollbackFailed b.id refused reason ∧
    Alarmed before after b refused
  | (.ok _, after) => before.Spurns after.store fun _ => False

/-- The commit of `b` meets a refusal: of a capture, or in one of its operations. -/
def Falters (sheet : Sheet) (b : Batch) : Prop :=
  (∃ e, (b.capture sheet.store).1 = .error e) ∨ ∃ r ∈ (sheet.attempt b).results, r.success = false

theorem originals_of_snapshot {before : Cells} {cells refused : List Address}
    (inside : ∀ a ∈ refused, a ∈ cells) (store : Store) (stats : Stats) (state : BatchState) :
    ∃ c, (sheet.close b (before.snapshot cells) state store stats).batch? b.id = some c ∧
      ∀ a ∈ refused, c.captured.get? a = some (before.get? a) := by
  refine ⟨_, batch?_close, fun a member => ?_⟩
  simp [Cells.get?_snapshot, inside a member]

theorem rollBackAfter_sounded {before : Store} {cells : List Address} {spurned : Address → Prop}
    (run : Run) (first : before.Spurns sheet.store spurned) (covers : ∀ a, spurned a → a ∈ cells)
    (part : Operation.PartDone b.operations before.cells sheet.store.cells) :
    Sounded before b
      (sheet.rollBackAfter { b with captured := before.cells.snapshot cells } run) := by
  have back := part.restore b.id cells
  have inside {a : Address} : a ∈ (before.cells.snapshot cells).keys ↔ a ∈ cells :=
    Cells.mem_keys_snapshot
  rcases restore_alarm b.id first fun a spurn => inside.2 (covers a spurn) with
    ⟨refused, reason, t, restored, within, alarm⟩ | ⟨n, t, restored, left⟩
  · rw [restored] at back
    simp only [rollBackAfter, putBack, restored]
    refine ⟨refused, reason, rfl, alarm, ?_, back⟩
    exact originals_of_snapshot (fun a member => inside.1 (within a member)) t _ .rolledBack
  · simp only [rollBackAfter, putBack, restored]
    exact left

theorem settle_sounded {before : Store} {run : Run} (owned : b.Owned)
    (left : run.ending.Spurns b.id b.operations before sheet.store)
    (part : Operation.PartDone b.operations before.cells sheet.store.cells) :
    Sounded before b
      (sheet.settle { b with captured := before.cells.snapshot b.owners.keys } run) := by
  have owners {a : Address} : a ∈ b.owners.keys ↔ Operation.Targeted b.operations a :=
    owned.mem_owners_iff
  cases ending : run.ending with
  | finished =>
    simp only [ending] at left
    simp only [settle, ending]
    exact left
  | abandoned =>
    simp only [ending] at left
    obtain ⟨cells, spurns, inside⟩ := left
    simp only [settle, ending]
    exact rollBackAfter_sounded run spurns (fun a spurn => owners.2 (inside a spurn)) part
  | stuck e =>
    simp only [ending] at left
    obtain ⟨refused, reason, rfl, inside, alarm⟩ := left
    simp only [settle, ending]
    refine ⟨refused, reason, rfl, alarm, ?_, part⟩
    exact originals_of_snapshot (fun a member => owners.2 (inside a member)) _ _ .committed

theorem carryOut_sounded (sheet : Sheet) {b : Batch} (sound : b.Sound)
    (isOpen : b.isActive = true) : Sounded sheet.store b (sheet.carryOut b) := by
  have reads := b.capture_spurns sheet.store
  rcases Batch.capture_cases (sound.fresh isOpen) sheet.store with
    ⟨e, s, read, _, _, _, capture, same, _⟩ | ⟨s, capture, same, _⟩
  · simp only [carryOut, capture]
    rw [capture] at reads
    exact rollBackAfter_sounded _ reads (by simp) fun a => .inl (by rw [same])
  · let captured := { b with captured := sheet.store.cells.snapshot b.owners.keys }
    let attempt := captured.run sheet.config.autoRollback s
    have captures : captured.Captures b.operations s := captures_snapshot sound.owned same
    have left : attempt.1.ending.Spurns b.id b.operations s attempt.2 := by
      refine captured.runFrom_spurns _ 0 b.operations s fun op listed a => ?_
      rw [captures op listed]
      exact Cells.mem_keys_snapshot
    have part : Operation.PartDone b.operations s.cells attempt.2.cells :=
      captured.runFrom_partDone sheet.config.autoRollback 0 sound.owned.apart s captures
    rw [capture] at reads
    rw [same] at part
    rw [carryOut_of_run capture rfl]
    exact settle_sounded sound.owned (.after reads left) part

theorem Falters.of_last {n : Nat} {c : Batch} {s t : Store} {run : Run} {op : Operation}
    {results : List OperationResult} {cause : String}
    (capture : b.capture sheet.store = (.ok n, c, s))
    (attempted : c.run sheet.config.autoRollback s = (run, t))
    (reported : run.results = results ++ [.failed op.kind [cause]]) : sheet.Falters b := by
  refine .inr ⟨.failed op.kind [cause], ?_, rfl⟩
  simp [attempt, capture, attempted, reported]

theorem Setback.falters {run : Run} {captured : SortedMap Address (Option Value)} {s : Store}
    {stats : Stats} (setback : Setback sheet b run captured s stats) : sheet.Falters b := by
  cases setback with
  | uncaptured capture => exact .inl ⟨_, by rw [capture]⟩
  | abandoned capture _ attempted ran ending =>
    obtain ⟨_, _, _, _, _, _, _, reported, _⟩ := ran.of_abandoned ending
    exact .of_last capture attempted reported

theorem CarriedOut.falters_of_error {e : BatchError} {after : Sheet}
    (carriedOut : CarriedOut sheet b (.error e, after)) : sheet.Falters b := by
  cases carriedOut with
  | unrestored setback => exact setback.falters
  | stuck capture _ attempted ran ending =>
    obtain ⟨_, _, _, _, _, _, _, _, _, reported, _⟩ := ran.of_stuck ending
    exact .of_last capture attempted reported

theorem CarriedOut.success_eq_false {result : BatchResult} {after : Sheet}
    (carriedOut : CarriedOut sheet b (.ok result, after)) :
    result.success = false ↔ sheet.Falters b := by
  cases carriedOut with
  | rolledBack setback => exact iff_of_true rfl setback.falters
  | finished capture _ attempted ran ending =>
    have clean := (ran.of_finished ending).2.1
    simpa [BatchResult.committed, Falters, capture, attempt, attempted] using not_congr clean

theorem CarriedOut.intact_of_rolledBack {result : BatchResult} {after : Sheet}
    (carriedOut : CarriedOut sheet b (.ok result, after)) (undone : result.wasRolledBack = true) :
    after.store.cells = sheet.store.cells := by
  cases carriedOut with
  | rolledBack _ intact => exact intact
  | finished => simp [BatchResult.committed] at undone

theorem commit_alarm (reachable : sheet.Reachable) {id : BatchId}
    (held : sheet.batch? id = some b) (isOpen : b.isActive = true) (now : Instant) :
    match sheet.commit id now with
    | (.error e, after) => e.isFatal = true ∧ sheet.Falters b ∧
        ∃ refused reason, e = .rollbackFailed id refused reason ∧
          Alarmed sheet.store after b refused
    | (.ok result, after) => (sheet.store.Spurns after.store fun _ => False) ∧
        (sheet.objections b now = [] → (result.success = false ↔ sheet.Falters b)) ∧
        (result.wasRolledBack = true → after.store.cells = sheet.store.cells) := by
  obtain ⟨rfl, batch⟩ := reachable.sound id b held
  rcases commit_of_open held isOpen now with ⟨invalid, run⟩ | ⟨_, run⟩
  · rw [run]
    exact ⟨.refl _, fun valid => absurd valid invalid, fun _ => rfl⟩
  rw [run]
  have sounded := sheet.carryOut_sounded batch isOpen
  have carriedOut := sheet.carryOut_carriedOut batch isOpen
  generalize sheet.carryOut b = outcome at sounded carriedOut ⊢
  obtain ⟨reply, after⟩ := outcome
  cases reply with
  | error e =>
    obtain ⟨refused, reason, rfl, alarmed⟩ := sounded
    exact ⟨rfl, carriedOut.falters_of_error, refused, reason, rfl, alarmed⟩
  | ok result =>
    exact ⟨sounded, fun _ => carriedOut.success_eq_false, carriedOut.intact_of_rolledBack⟩

theorem commit_alarm_writes_refused :
    let sheet := opened { faults := { writesFrom := some 2 } } {}
      (.overwriteText (.range ⟨0, 0⟩ ⟨0, 1⟩) "x")
    ∃ b, sheet.batch? ⟨1⟩ = some b ∧
      Alarmed sheet.store (sheet.commit ⟨1⟩ 2).2 b [⟨0, 0⟩, ⟨0, 1⟩] ∧
      (sheet.commit ⟨1⟩ 2).2.store.cells = (∅ : Cells).insert ⟨0, 0⟩ (.text "x") := by
  intro sheet
  have held : sheet.batch? ⟨1⟩ = some _ := rfl
  obtain ⟨_, _, refused, reason, same, alarmed⟩ :=
    @commit_alarm sheet _ (opened_reachable _ _ _) ⟨1⟩ held rfl 2
  cases same
  exact ⟨_, held, alarmed, rfl⟩

-- A cell that refuses every write is named although nothing was altered: the operation was refused
-- before it wrote, or a later cell could not be read.
theorem commit_false_alarm :
    let sheet := opened { faults := { cells := [⟨0, 0⟩] } } {}
      (.overwriteText (.single ⟨0, 0⟩) "x")
    let unread := opened { faults := { cells := [⟨0, 0⟩], reads := [2] } } {}
      (.overwriteText (.range ⟨0, 0⟩ ⟨0, 1⟩) "x")
    (sheet.Reachable ∧
      (∃ reason, (sheet.commit ⟨1⟩ 2).1 = .error (.rollbackFailed ⟨1⟩ [⟨0, 0⟩] reason)) ∧
      (sheet.commit ⟨1⟩ 2).2.store.cells = sheet.store.cells) ∧
    unread.Reachable ∧
      (∃ reason, (unread.commit ⟨1⟩ 2).1 = .error (.rollbackFailed ⟨1⟩ [⟨0, 0⟩] reason)) ∧
      (unread.commit ⟨1⟩ 2).2.store.cells = unread.store.cells :=
  ⟨⟨opened_reachable _ _ _, ⟨_, rfl⟩, rfl⟩, opened_reachable _ _ _, ⟨_, rfl⟩, rfl⟩

end CellLedger.Sheet
