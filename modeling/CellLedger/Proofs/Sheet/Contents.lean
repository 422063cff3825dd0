import CellLedger.Proofs.Operation.Preview
import CellLedger.Proofs.Sheet.Report

/-!
What calls leave of the contents. Calls that carry nothing out leave all of them
(`call_peeks_of_quiet`); a commit that fails does so too, unless contents could not be put back
(`commit_settles`).
-/

set_option autoImplicit false

namespace CellLedger

theorem Batch.previewOperations_peeks (limit : Option Nat) (operations : List Operation)
    (s : Store) :
    s.Peeks (previewOperations limit operations s).2 (Operation.Targeted operations) := by
  induction operations generalizing s with
  | nil => exact .refl s _
  | cons op rest ih =>
    have first : s.Peeks (op.preview limit s).2 (Operation.Targeted (op :: rest)) :=
      (op.preview_peeks limit s).mono fun _ => Operation.targeted_head
    simp only [previewOperations]
    generalize op.preview limit s = outcome at first ⊢
    obtain ⟨reply, t⟩ := outcome
    cases reply with
    | error e => exact first
    | ok preview =>
      have later : t.Peeks (previewOperations limit rest t).2 (Operation.Targeted (op :: rest)) :=
        (ih t).mono fun _ => Operation.targeted_tail
      generalize step : previewOperations limit rest t = outcome at later
      obtain ⟨reply, u⟩ := outcome
      simp only [step]
      cases reply <;> exact first.trans later

-- The calls that carry no operation out.
def BatchCall.isQuiet : BatchCall → Bool
  | .commit _ | .executeSingle _ => false
  | _ => true

namespace Sheet

variable {sheet : Sheet}

theorem add_store (sheet : Sheet) (id : BatchId) (op : Operation) :
    (sheet.add id op).2.store = sheet.store := by
  rcases sheet.add_cases id op with ⟨_, run⟩ | ⟨_, _, _, _, run⟩
  · rw [run]
  · rw [run]
    rfl

theorem preview_peeks (sheet : Sheet) (id : BatchId) (limit : Option Nat) (now : Instant) :
    sheet.store.Peeks (sheet.preview id limit now).2.store fun _ => True := by
  simp only [preview]
  split
  · exact .refl _ _
  next b _ =>
    have peeks : sheet.store.Peeks
        (Batch.previewOperations limit b.operations sheet.store).2 fun _ => True :=
      (Batch.previewOperations_peeks limit b.operations sheet.store).mono fun _ _ => trivial
    generalize Batch.previewOperations limit b.operations sheet.store = outcome at peeks ⊢
    obtain ⟨reply, t⟩ := outcome
    cases reply <;> exact peeks

theorem rollBack_store (sound : sheet.Sound) (id : BatchId) :
    (sheet.rollBack id).2.store = sheet.store := by
  cases found : sheet.findActive id with
  | error e => simp only [rollBack, found]
  | ok b =>
    obtain ⟨held, isOpen⟩ := findActive_eq_ok.1 found
    -- Nothing is captured in an open batch, so that there is nothing to put back.
    have none := (sound id b held).2.fresh isOpen
    simp only [rollBack, found, putBack, none]
    rfl

theorem cancel_store (sheet : Sheet) (id : BatchId) :
    (sheet.cancel id).2.store = sheet.store := by
  simp only [cancel]
  split <;> rfl

theorem call_peeks_of_quiet (sound : sheet.Sound) (now : Instant) {c : BatchCall}
    (quiet : c.isQuiet = true) :
    sheet.store.Peeks (sheet.call now c).2.store fun _ => True := by
  have same {store : Store} (same : store = sheet.store) :
      sheet.store.Peeks store fun _ => True := same ▸ .refl _ _
  cases c with
  | begin metadata => exact same rfl
  | add id op => exact same (sheet.add_store id op)
  | validate id => exact same rfl
  | preview id limit => exact sheet.preview_peeks id limit now
  | commit id => simp [BatchCall.isQuiet] at quiet
  | rollBack id => exact same (rollBack_store sound id)
  | cancel id => exact same (sheet.cancel_store id)
  | sweep => exact same rfl
  | executeSingle op => simp [BatchCall.isQuiet] at quiet
  | status id => exact same rfl
  | active => exact same rfl

-- On a sheet that rolls whole batches back a commit ends in one of three ways: the whole batch took
-- effect and is reported, the contents are what they were, or cells could not be put back.
theorem commit_whole (sound : sheet.Sound) (rollback : sheet.config.autoRollback = true)
    {id : BatchId} {b : Batch} (held : sheet.batch? id = some b) (isOpen : b.isActive = true)
    (now : Instant) :
    (∃ result, (sheet.commit id now).1 = .ok result ∧ result.success = true ∧
        result.changes.Between sheet.store.cells (sheet.commit id now).2.store.cells ∧
        (sheet.commit id now).2.store.cells =
          Operation.applyAll b.operations sheet.store.cells) ∨
      (∃ result, (sheet.commit id now).1 = .ok result ∧ result.success = false ∧
        (sheet.commit id now).2.store.cells = sheet.store.cells) ∨
      ∃ refused reason, (sheet.commit id now).1 = .error (.rollbackFailed b.id refused reason) ∧
        ∀ a, a ∉ refused →
          (sheet.commit id now).2.store.cells.get? a = sheet.store.cells.get? a := by
  have batch := (sound id b held).2
  rcases commit_of_open held isOpen now with ⟨_, run⟩ | ⟨_, run⟩
  · rw [run]
    exact .inr (.inl ⟨_, rfl, rfl, rfl⟩)
  rw [run]
  have carriedOut := sheet.carryOut_carriedOut batch isOpen
  generalize sheet.carryOut b = outcome at carriedOut ⊢
  cases carriedOut with
  | rolledBack _ intact => exact .inr (.inl ⟨_, rfl, rfl, intact⟩)
  | unrestored _ _ intact => exact .inr (.inr ⟨_, _, rfl, intact⟩)
  | stuck _ _ _ ran ending => simp [(ran.of_stuck ending).1] at rollback
  | finished _ same _ ran ending =>
    -- A run that is not given up has no error, so that every operation is kept.
    obtain ⟨settled, clean, strict⟩ := ran.of_finished ending
    have none := strict rollback
    rw [← same]
    refine .inl ⟨_, rfl, by simp [BatchResult.committed, none], ?_, ?_⟩
    · exact BatchResult.committed_between settled ran.touches
    · exact cells_of_all_kept batch.owned.apart settled (clean.1 none) ran.touches

theorem commit_settles (sound : sheet.Sound) (rollback : sheet.config.autoRollback = true)
    {id : BatchId} {b : Batch} (held : sheet.batch? id = some b) {now : Instant}
    (restored : ∀ e, (sheet.commit id now).1 = .error e → e.isFatal = false) :
    (∃ result, (sheet.commit id now).1 = .ok result ∧ result.success = true ∧
        result.changes.Between sheet.store.cells (sheet.commit id now).2.store.cells ∧
        (sheet.commit id now).2.store.cells =
          Operation.applyAll b.operations sheet.store.cells) ∨
      ((sheet.commit id now).2.store.cells = sheet.store.cells ∧
        ∀ result, (sheet.commit id now).1 = .ok result → result.success = false) := by
  by_cases isOpen : b.isActive = true
  · rcases commit_whole sound rollback held isOpen now with
      whole | ⟨result, answer, failure, same⟩ | ⟨_, _, answer, _⟩
    · exact .inl whole
    · exact .inr ⟨same, by simp [answer, failure]⟩
    · have harmless := restored _ answer
      simp [BatchError.isFatal] at harmless
  · rcases sheet.commit_cases id now with ⟨e, _, run⟩ | ⟨c, heldToo, isOpenToo, _⟩
    · simp [run]
    · obtain rfl : b = c := by simpa [held] using heldToo
      exact absurd isOpenToo isOpen

-- The batch that a single operation is carried out in.
theorem add_begin (sheet : Sheet) (op : Operation) (begun : Instant) :
    (sheet.begin ∅ begun).2.add ⟨sheet.nextId⟩ op =
      match Batch.add { id := ⟨sheet.nextId⟩, startedAt := begun } op sheet.config with
      | .error e => (.error e, (sheet.begin ∅ begun).2)
      | .ok b => (.ok (), (sheet.begin ∅ begun).2.putBatch b) := by
  have tracked : (sheet.begin ∅ begun).2.batch? ⟨sheet.nextId⟩ =
      some { id := ⟨sheet.nextId⟩, startedAt := begun } :=
    (sheet.batch?_putBatch _ ⟨sheet.nextId⟩).trans (if_pos rfl)
  simp only [add, find, tracked]
  rfl

theorem add_begin_eq_ok {op : Operation} {begun : Instant} {t : Sheet}
    (added : (sheet.begin ∅ begun).2.add ⟨sheet.nextId⟩ op = (.ok (), t)) :
    t.store = sheet.store ∧
      ∃ b, t.batch? ⟨sheet.nextId⟩ = some b ∧ b.isActive = true ∧ b.operations = [op] := by
  rw [add_begin] at added
  split at added
  · simp at added
  next b accepted =>
  obtain ⟨isOpen, _, _, _, same⟩ := Batch.add_eq_ok accepted
  obtain ⟨_, rfl⟩ := Prod.mk.inj added
  refine ⟨rfl, b, ?_, by rw [same]; exact isOpen, by rw [same]; rfl⟩
  rw [batch?_putBatch, if_pos (by rw [same])]

end Sheet

end CellLedger
