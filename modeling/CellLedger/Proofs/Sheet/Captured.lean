import CellLedger.Proofs.Sheet.Contents
import CellLedger.Proofs.Sheet.Steps
import Mathlib.Data.List.Induction

/-!
What is captured in a tracked batch, told from its state: nothing while it is open, and afterwards
what its cells held when its commit was called (`captured_at_commit`). So a batch that is rolled
back or cancelled by a call of its own leaves the store alone.
-/

set_option autoImplicit false

namespace CellLedger

namespace Sheet

/-- The commit that was called after these events closed the batch, and captured in it what cells
held at that moment. -/
structure CapturedAfter (start : Sheet) (before : List Event) (now : Instant) (b : Batch) :
    Prop where
  opened : ∃ c, (start.after before).batch? b.id = some c ∧ c.isActive = true
  closed : ((start.after before).commit b.id now).2.batch? b.id = some b
  values : ∀ a v, b.captured.get? a = some v → v = (start.after before).store.cells.get? a

structure Accounted (start : Sheet) (events : List Event) (b : Batch) : Prop where
  nothing : b.state = .active ∨ b.state = .cancelled → b.captured = ∅
  everything : b.state = .committed → b.captured.keys = b.owners.keys
  firstPart : b.state = .rolledBack → b.captured.keys <+: b.owners.keys
  original : b.captured = ∅ ∨ ∃ before now,
    before ++ [.call now (.commit b.id)] <+: events ∧ start.CapturedAfter before now b

variable {start : Sheet} {events : List Event} {e : Event} {b : Batch}

theorem Accounted.of_active (isOpen : b.isActive = true) (none : b.captured = ∅) :
    start.Accounted events b := by
  have active : b.state = .active := of_decide_eq_true isOpen
  exact ⟨fun _ => none, by simp [active], by simp [active], .inl none⟩

theorem Accounted.append (accounted : start.Accounted events b) (more : List Event) :
    start.Accounted (events ++ more) b where
  nothing := accounted.nothing
  everything := accounted.everything
  firstPart := accounted.firstPart
  original := by
    rcases accounted.original with none | ⟨before, now, run, captured⟩
    · exact .inl none
    · exact .inr ⟨before, now, run.trans (List.prefix_append events more), captured⟩

theorem Closes.accounted {captured : SortedMap Address (Option Value)} {state : BatchState}
    (closes : (start.after events).Closes b e captured state) (fresh : b.captured = ∅)
    (held : (start.after events).batch? b.id = some b) (isOpen : b.isActive = true)
    (left : ((start.after events).step e).batch? b.id = some { b with captured, state }) :
    start.Accounted (events ++ [e]) { b with captured, state } := by
  -- A snapshot of the moment of the call is what the cells held at that moment.
  have snapshot {now : Instant} {read : List Address} {state : BatchState}
      (left : ((start.after events).commit b.id now).2.batch? b.id =
        some { b with captured := (start.after events).store.cells.snapshot read, state }) :
      start.CapturedAfter events now
        { b with captured := (start.after events).store.cells.snapshot read, state } := by
    refine ⟨⟨b, held, isOpen⟩, left, fun a v found => ?_⟩
    rw [Cells.get?_snapshot] at found
    by_cases member : a ∈ read
    · simpa [member] using found.symm
    · simp [member] at found
  cases closes with
  | cancelled => exact ⟨fun _ => fresh, by simp, by simp, .inl fresh⟩
  | rolledBack => exact ⟨fun _ => fresh, by simp, fun _ => by simp [fresh], .inl fresh⟩
  | committed now =>
    refine ⟨by simp, fun _ => Cells.keys_snapshot _ b.owners.keys_ascending, by simp, ?_⟩
    exact .inr ⟨events, now, List.prefix_refl _, snapshot left⟩
  | givenUp now first =>
    have ascending := b.owners.keys_ascending.sublist first.sublist
    refine ⟨by simp, by simp, fun _ => ?_, .inr ⟨events, now, List.prefix_refl _, snapshot left⟩⟩
    rw [Cells.keys_snapshot _ ascending]
    exact first

theorem after_accounted (reachable : start.Reachable) (empty : start.batches = ∅)
    (events : List Event) (id : BatchId) (b : Batch)
    (held : (start.after events).batch? id = some b) : start.Accounted events b := by
  -- The run is followed from its end, since a batch is as its last event left it.
  induction events using List.reverseRecOn generalizing b with
  | nil => simp [after, batch?, empty] at held
  | append_singleton events e ih =>
    have reached := reachable.after events
    have last : start.after (events ++ [e]) = (start.after events).step e := start.after_append _ _
    have becomes := reached.becomes e id
    rw [last] at held
    rw [held] at becomes
    generalize before : (start.after events).batch? id = found at becomes
    cases becomes with
    | begun => exact .of_active rfl rfl
    | kept => exact (ih b before).append [e]
    | grown accepted =>
      obtain ⟨isOpen, _, _, _, same⟩ := Batch.add_eq_ok accepted
      refine .of_active (by rw [same]; exact isOpen) ?_
      rw [same]
      exact (reached.sound id _ before).2.fresh isOpen
    | closed isOpen number closes =>
      subst number
      exact closes.accounted ((reached.sound _ _ before).2.fresh isOpen) before isOpen held

theorem captured_at_commit (store : Store) (config : SheetConfig) (events : List Event) :
    let start : Sheet := { store, config }
    let sheet := start.after events
    (∀ id b, sheet.batch? id = some b →
      (b.state = .active ∨ b.state = .cancelled → b.captured = ∅) ∧
      (b.state = .committed → b.captured.keys = b.owners.keys) ∧
      (b.state = .rolledBack → b.captured.keys <+: b.owners.keys) ∧
      (b.captured = ∅ ∨ ∃ before now, before ++ [.call now (.commit id)] <+: events ∧
        start.CapturedAfter before now b)) ∧
    ∀ id, (sheet.rollBack id).2.store = sheet.store ∧ (sheet.cancel id).2.store = sheet.store := by
  intro start sheet
  have reachable : start.Reachable := .start store config
  have sound := (reachable.after events).sound
  refine ⟨fun id b held => ?_, fun id => ⟨rollBack_store sound id, sheet.cancel_store id⟩⟩
  obtain ⟨nothing, everything, firstPart, original⟩ :=
    after_accounted reachable rfl events id b held
  rw [(sound id b held).1] at original
  exact ⟨nothing, everything, firstPart, original⟩

end Sheet

end CellLedger
