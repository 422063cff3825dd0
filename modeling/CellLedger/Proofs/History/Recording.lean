import CellLedger.Proofs.History.Reachable

/-!
What recording makes of a history of which no action is too old (`recording_entered`): the new
action is the next to be undone, provided that the history has room for one action at all.
-/

set_option autoImplicit false

namespace CellLedger

theorem Action.WellFormed.undo_cells {a : Action} (wellFormed : a.WellFormed) :
    a.undoOperation.selection.cells = a.changes.keys := by
  rw [wellFormed.undo, Operation.deriveUndo, Operation.selection_derive]
  rfl

theorem Action.stamped_ofBatch (operations : List Operation) (result : BatchResult)
    (stamp : Stamp) :
    (ofBatch operations result stamp).id = stamp.id ∧
      (ofBatch operations result stamp).changes = result.changes := by
  match operations with
  | [_] => exact ⟨rfl, rfl⟩
  | [] => exact ⟨rfl, rfl⟩
  | _ :: _ :: _ => exact ⟨rfl, rfl⟩

namespace History

/-- The history with the new action on top. Of the older ones only the oldest had to make room. -/
structure Topped (h : History) (stamp : Stamp) (changes : ChangeSet) (next : History) : Prop where
  done : ∃ action, next.done = action :: h.done.take (h.config.maxActions - 1) ∧
    action.id = stamp.id ∧ action.changes = changes ∧
    action.undoOperation.selection.cells = changes.keys
  canUndo : next.canUndo = true

/-- The answer to a recording: a failure or a result without changes is not recorded. -/
structure Entered (h : History) (stamp : Stamp) (success : Bool) (changes : ChangeSet)
    (answer : Option ActionId × History) : Prop where
  refused : answer = (none, h) ↔ success = false ∨ changes = ∅
  recorded : success = true → changes ≠ ∅ → answer.1 = some stamp.id ∧ answer.2.undone = []
  topped : success = true → changes ≠ ∅ → 0 < h.config.maxActions →
    h.Topped stamp changes answer.2
  -- A history without room answers as if it had recorded, and keeps nothing.
  dropped : success = true → changes ≠ ∅ → h.config.maxActions = 0 → answer.2.done = []

variable {h : History} {stamp : Stamp} {now : Instant}

theorem entered_of_push (young : h.NoneExpired stamp now) {success : Bool} {changes : ChangeSet}
    {action : Action} (formed : changes.isEmpty = false → action.WellFormed)
    (stamped : action.id = stamp.id ∧ action.recordedAt = stamp.recordedAt)
    (recorded : action.changes = changes) :
    h.Entered stamp success changes
      (if !success || changes.isEmpty then (none, h) else (some stamp.id, h.push action now)) := by
  have pushed := push_of_noneExpired young stamped.2
  have empty : changes.isEmpty = true ↔ changes = ∅ := SortedMap.isEmpty_iff
  by_cases refused : success = false ∨ changes = ∅
  · have condition : (!success || changes.isEmpty) = true := by simpa [empty] using refused
    have contradiction (succeeded : success = true) (altered : changes ≠ ∅) : False := by
      simp_all
    rw [if_pos condition]
    exact ⟨by simp [refused], fun s a => (contradiction s a).elim,
      fun s a => (contradiction s a).elim, fun s a => (contradiction s a).elim⟩
  · have condition : ¬ (!success || changes.isEmpty) = true := by simpa [empty] using refused
    have altered : changes.isEmpty = false := by simp_all
    rw [if_neg condition, pushed]
    constructor
    · simp [refused]
    · exact fun _ _ => ⟨rfl, rfl⟩
    · intro _ _ room
      have kept : (action :: h.done).take h.config.maxActions =
          action :: h.done.take (h.config.maxActions - 1) := List.take_cons room
      constructor
      · exact ⟨action, kept, stamped.1, recorded, recorded ▸ (formed altered).undo_cells⟩
      · simp [canUndo, kept]
    · intro _ _ none
      simp [none]

theorem recording_entered (young : h.NoneExpired stamp now) :
    (∀ op result, h.Entered stamp result.success result.changes (h.record op result stamp now)) ∧
      ∀ operations result,
        h.Entered stamp result.success result.changes
          (h.recordBatch operations result stamp now) := by
  constructor
  · intro op result
    exact entered_of_push young (fun altered => .ofOperation altered op stamp) ⟨rfl, rfl⟩ rfl
  · intro operations result
    obtain ⟨id, changes⟩ := Action.stamped_ofBatch operations result stamp
    exact entered_of_push young (fun altered => .ofBatch altered operations stamp)
      ⟨id, Action.recordedAt_ofBatch operations result stamp⟩ changes

-- The third action finds the history full and the first one undone.
theorem recording_entered_full :
    let write (column : UInt32) : Operation := .overwriteText (.single ⟨0, column⟩) "x"
    let enter (h : History) (n : Nat) (column : UInt32) : Option ActionId × History :=
      h.record (write column) ((write column).report ∅) ⟨⟨BitVec.ofNat 128 n⟩, n⟩ n
    let h := (enter (enter { config := { maxActions := 2 } } 0 0).2 1 1).2
    let stamp : Stamp := ⟨⟨2⟩, 2⟩
    let changes := (write 2).changesOn ∅
    h.done.map (·.id) = [⟨1⟩, ⟨0⟩] ∧ h.NoneExpired stamp 2 ∧
      h.Entered stamp true changes (enter h 2 2) ∧
      (enter h 2 2).2.done.map (·.id) = [⟨2⟩, ⟨1⟩] ∧ changes.keys = [⟨0, 2⟩] := by
  intro write enter h stamp changes
  have young : h.NoneExpired stamp 2 := by
    refine ⟨by decide, ?_⟩
    decide +kernel
  exact ⟨by decide +kernel, young, (recording_entered young).1 (write 2) ((write 2).report ∅),
    by decide +kernel, by decide +kernel⟩

-- The identifier is given out although the action is dropped at once.
theorem recording_without_room :
    let op : Operation := .overwriteText (.single ⟨0, 0⟩) "x"
    let result := op.report ∅
    let h : History := { config := { maxActions := 0 } }
    let stamp : Stamp := ⟨⟨0⟩, 0⟩
    let answer := h.record op result stamp 0
    h.Reachable ∧ h.NoneExpired stamp 0 ∧ result.success = true ∧ result.changes ≠ ∅ ∧
      answer.1 = some stamp.id ∧ answer.2.done = [] ∧ answer.2.canUndo = false := by
  intro op result h stamp answer
  exact ⟨.start _, ⟨by decide, by simp [h]⟩, rfl, by decide +kernel, rfl, rfl, rfl⟩

end History

end CellLedger
