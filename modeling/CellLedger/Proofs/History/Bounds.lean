import CellLedger.Proofs.History.Reachable

/-!
How long the two stacks of a history grow: together no longer than its size, and what can be redone
no longer than half of it (`Reachable.within`). A redo therefore never loses an action.
-/

set_option autoImplicit false

namespace CellLedger

namespace History

structure Within (h : History) : Prop where
  together : h.done.length + h.undone.length ≤ h.config.maxActions
  undone : h.undone.length ≤ h.config.maxUndone

variable {h h' next : History} {s t u v : Store} {result again : OperationResult}

theorem Within.evict (within : h.Within) (now : Instant) : (h.evict now).2.Within := by
  have fewerDone := List.length_filter_le (h.isFresh now) h.done
  have fewerUndone := List.length_filter_le (h.isFresh now) h.undone
  have := within.together
  have := within.undone
  constructor <;> simp only [History.evict] <;> omega

-- What is recorded takes the place of all that could be redone.
theorem within_push (h : History) (action : Action) (now : Instant) :
    (h.push action now).Within := by
  have pushed : Within
      { h with done := (action :: h.done).take h.config.maxActions, undone := [] } := by
    constructor
    · simp only [List.length_take, List.length_nil]
      omega
    · simp
  simp only [push]
  split
  · exact pushed.evict now
  · exact pushed

theorem Within.undo (within : h.Within) (s : Store) : (h.undo s).2.1.Within := by
  have := within.together
  rcases h.undo_cases s with ⟨e, t, run, _⟩ | ⟨action, older, t, top, run, _⟩
  · rw [run]
    exact within
  · rw [run]
    have length : h.done.length = older.length + 1 := by simp [top]
    constructor <;> simp only [List.length_take, List.length_cons] <;> omega

theorem Within.redo (within : h.Within) (s : Store) : (h.redo s).2.1.Within := by
  have := within.together
  have := within.undone
  rcases h.redo_cases s with ⟨e, t, run, _⟩ | ⟨action, older, t, top, run, _⟩
  · rw [run]
    exact within
  · rw [run]
    have length : h.undone.length = older.length + 1 := by simp [top]
    constructor <;> simp only [List.length_take, List.length_cons] <;> omega

theorem Reachable.within (reachable : h.Reachable) : h.Within := by
  induction reachable with
  | start config => constructor <;> simp
  | @record h _ op result stamp now ih =>
    rw [History.record]
    split
    · exact ih
    · exact h.within_push _ now
  | @recordBatch h _ operations result stamp now ih =>
    rw [History.recordBatch]
    split
    · exact ih
    · exact h.within_push _ now
  | undo _ s ih => exact ih.undo s
  | redo _ s ih => exact ih.redo s
  | evict _ now ih => exact ih.evict now
  | clear => constructor <;> simp [History.clear]

-- There is room in the undo stack for the action that a redo puts back.
theorem Within.redo_ok (within : h.Within) (redone : h.redo s = (.ok result, next, t)) :
    ∃ action, h.undone = action :: next.undone ∧
      next = { h with done := action :: h.done, undone := next.undone } := by
  rcases h.redo_cases s with ⟨e, t, run, _⟩ | ⟨action, older, t, top, run, _⟩
  · rw [run] at redone
    cases redone
  · rw [run] at redone
    cases redone
    have length : h.undone.length = older.length + 1 := by simp [top]
    have room : (action :: h.done).length ≤ h.config.maxActions := by
      have := within.together
      simp only [List.length_cons]
      omega
    exact ⟨action, top, by rw [List.take_of_length_le room]⟩

theorem undo_ok (undone : h.undo s = (.ok result, next, t)) :
    ∃ action older, h.done = action :: older ∧
      next = { h with done := older, undone := (action :: h.undone).take h.config.maxUndone } := by
  rcases h.undo_cases s with ⟨e, t, run, _⟩ | ⟨action, older, t, top, run, _⟩
  · rw [run] at undone
    cases undone
  · rw [run] at undone
    cases undone
    exact ⟨action, older, top, rfl⟩

theorem Within.redo_undo (within : h.Within) (undone : h.undo s = (.ok result, h', t))
    (redone : h'.redo u = (.ok again, next, v)) :
    next.done = h.done ∧ (next.undone = h.undone ∨ next.undone = h.undone.dropLast) := by
  have between : h'.Within := by
    have kept := within.undo s
    rwa [undone] at kept
  obtain ⟨action, older, top, rfl⟩ := undo_ok undone
  obtain ⟨back, kept, restored⟩ := between.redo_ok redone
  -- At least one place is kept for the action just undone.
  obtain ⟨rest, positive⟩ : ∃ n, h.config.maxUndone = n + 1 :=
    ⟨h.config.maxUndone - 1, by simp only [HistoryConfig.maxUndone]; omega⟩
  simp only [positive, List.take_succ_cons, List.cons.injEq] at kept
  have length := within.undone
  constructor
  · rw [restored, top, kept.1]
  · rw [← kept.2]
    by_cases full : h.undone.length = rest + 1
    · right
      rw [List.dropLast_eq_take, full, Nat.add_sub_cancel]
    · left
      exact List.take_of_length_le (by omega)

theorem Reachable.bounded (reachable : h.Reachable) :
    h.done.length + h.undone.length ≤ h.config.maxActions ∧
    h.undone.length ≤ max 1 (h.config.maxActions / 2) ∧
    (∀ s result next t, h.redo s = (.ok result, next, t) →
      ∃ action, h.undone = action :: next.undone ∧
        next = { h with done := action :: h.done, undone := next.undone }) ∧
    ∀ s result h' t u again next v, h.undo s = (.ok result, h', t) →
      h'.redo u = (.ok again, next, v) →
        next.done = h.done ∧
          (next.undone = h.undone ∨ next.undone = h.undone.dropLast) := by
  have within := reachable.within
  exact ⟨within.together, within.undone, fun s result next t => within.redo_ok,
    fun s result h' t u again next v => within.redo_undo⟩

theorem Reachable.bounded_full :
    let first : Operation := .overwriteText (.single ⟨0, 0⟩) "x"
    let second : Operation := .overwriteText (.single ⟨0, 1⟩) "y"
    let start : History := { config := { maxActions := 2 } }
    let one := (start.record first (first.report ∅) ⟨⟨0⟩, 0⟩ 0).2
    let two := (one.record second (second.report ∅) ⟨⟨1⟩, 0⟩ 0).2
    let h := (two.undo (.ofCells ∅)).2.1
    let back := h.undo (.ofCells ∅)
    let forth := back.2.1.redo (.ofCells ∅)
    h.Reachable ∧ h.done.length = 1 ∧ h.undone.length = 1 ∧
      h.done.length + h.undone.length ≤ h.config.maxActions ∧
      h.undone.length ≤ max 1 (h.config.maxActions / 2) ∧
      back.1.isOk = true ∧ forth.1.isOk = true ∧ forth.2.1.done = h.done ∧
      -- The only action that could be redone before had to make room.
      (forth.2.1.undone = h.undone ∨ forth.2.1.undone = h.undone.dropLast) ∧
      forth.2.1.undone.length = 0 := by
  intro first second start one two h back forth
  have reachable : h.Reachable := (((Reachable.start _).record _ _ _ _).record _ _ _ _).undo _
  have lengths : h.done.length = 1 ∧ h.undone.length = 1 ∧ forth.2.1.undone.length = 0 := by
    decide +kernel
  have answered : back.1.isOk = true ∧ forth.1.isOk = true := by decide +kernel
  clear_value h
  obtain ⟨together, half, _, returns⟩ := reachable.bounded
  obtain ⟨undone, runBack⟩ := exists_of_isOk answered.1
  obtain ⟨redone, runForth⟩ := exists_of_isOk answered.2
  obtain ⟨restored, kept⟩ := returns _ _ _ _ _ _ _ _ runBack runForth
  exact ⟨reachable, lengths.1, lengths.2.1, together, half, answered.1, answered.2, restored, kept,
    lengths.2.2⟩

end History

end CellLedger
