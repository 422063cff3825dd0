import CellLedger.History
import CellLedger.Proofs.Operation.Inverse
import CellLedger.Proofs.Batch.Settled

/-!
What an undo and a redo do to the contents. An action bridges two contents if undoing it leads from
the one to the other and redoing it back again, up to equality of values (`Bridges.undone`,
`Bridges.redone`); recording makes such actions.
-/

set_option autoImplicit false

namespace CellLedger

/-- Undoing the action leads back from `after` to `before`, and redoing it forth again. -/
structure Bridges (before after : Cells) (action : Action) : Prop where
  between : ∃ s t : Cells, s.Same before ∧ t.Same after ∧ action.changes.Between s t
  undo : action.undoOperation = .deriveUndo action.changes
  redo : ∀ op, action.redoOperation = some op →
    ∀ s : Cells, s.Same before → (op.apply s).Same after

section Bridges

variable {before after s t : Cells} {action : Action}

theorem Bridges.undone (bridges : Bridges before after action) (same : s.Same after) :
    (action.undoOperation.apply s).Same before := by
  obtain ⟨first, last, sameFirst, sameLast, between⟩ := bridges.between
  rw [bridges.undo]
  exact (Operation.apply_deriveUndo between (same.trans sameLast.symm)).trans sameFirst

theorem Bridges.redone (bridges : Bridges before after action) (same : s.Same before) :
    (action.redo.apply s).Same after := by
  cases kept : action.redoOperation with
  | some op =>
    rw [Action.redo, kept]
    exact bridges.redo op kept s same
  | none =>
    obtain ⟨first, last, sameFirst, sameLast, between⟩ := bridges.between
    rw [Action.redo, kept]
    exact (Operation.apply_deriveRedo between (same.trans sameFirst.symm)).trans sameLast

theorem Operation.reusable?_eq_some {op p : Operation} (reused : op.reusable? = some p) :
    p = op := by
  rw [Operation.reusable?] at reused
  split at reused
  · simp at reused
  · exact (Option.some.inj reused).symm

theorem Bridges.ofOperation {op : Operation} {changes : ChangeSet} (same : s.Same before)
    (between : changes.Between s t) (effect : t = op.apply s) (stamp : Stamp) :
    Bridges before t (.ofOperation op changes stamp) where
  between := ⟨s, t, same, .refl t, between⟩
  undo := rfl
  redo p kept u sameToo := by
    -- Run again on equal contents, the operation does what it did.
    rw [Operation.reusable?_eq_some kept, effect]
    exact op.apply_congr (sameToo.trans same.symm)

theorem Bridges.ofBatch {operations : List Operation} {result : BatchResult}
    (same : s.Same before) (between : result.changes.Between s t)
    (effect : t = Operation.applyAll operations s) (stamp : Stamp) :
    Bridges before t (.ofBatch operations result stamp) := by
  match operations with
  | [op] =>
    have single := Bridges.ofOperation same between effect stamp
    exact ⟨single.between, rfl, single.redo⟩
  | [] => exact ⟨⟨s, t, same, .refl t, between⟩, rfl, by simp [Action.ofBatch]⟩
  | _ :: _ :: _ => exact ⟨⟨s, t, same, .refl t, between⟩, rfl, by simp [Action.ofBatch]⟩

end Bridges

theorem Action.recordedAt_ofBatch (operations : List Operation) (result : BatchResult)
    (stamp : Stamp) : (ofBatch operations result stamp).recordedAt = stamp.recordedAt := by
  match operations with
  | [_] => rfl
  | [] => rfl
  | _ :: _ :: _ => rfl

namespace History

theorem undo_cases (h : History) (s : Store) :
    (∃ e t, h.undo s = (.error e, h, t) ∧
        (t.cells = s.cells ∨ ∃ cells, s.Refuses t cells)) ∨
      ∃ action older t, h.done = action :: older ∧
        h.undo s = (.ok (action.undoOperation.report s.cells),
          { h with done := older, undone := (action :: h.undone).take h.config.maxUndone }, t) ∧
        t.cells = action.undoOperation.apply s.cells := by
  cases done : h.done with
  | nil => exact .inl ⟨.nothingToUndo, s, by simp only [undo, done], .inl rfl⟩
  | cons action older =>
    cases objection : h.objection? action with
    | some reason =>
      exact .inl ⟨.undoInvalid reason, s, by simp only [undo, done, objection], .inl rfl⟩
    | none =>
      rcases action.undoOperation.execute_cases s with
        ⟨e, t, _, _, _, run, _, _, refuses⟩ | ⟨t, run, cells, _⟩
      · refine .inl ⟨.undoFailed (BatchError.store e).message, t, ?_, .inr ⟨_, refuses⟩⟩
        simp only [undo, done, objection, run]
      · exact .inr ⟨action, older, t, rfl, by simp only [undo, done, objection, run], cells⟩

theorem redo_cases (h : History) (s : Store) :
    (∃ e t, h.redo s = (.error e, h, t) ∧
        (t.cells = s.cells ∨ ∃ cells, s.Refuses t cells)) ∨
      ∃ action older t, h.undone = action :: older ∧
        h.redo s = (.ok (action.redo.report s.cells),
          { h with done := (action :: h.done).take h.config.maxActions, undone := older }, t) ∧
        t.cells = action.redo.apply s.cells := by
  cases undone : h.undone with
  | nil => exact .inl ⟨.nothingToRedo, s, by simp only [redo, undone], .inl rfl⟩
  | cons action older =>
    rcases action.redo.execute_cases s with
      ⟨e, t, _, _, _, run, _, _, refuses⟩ | ⟨t, run, cells, _⟩
    · refine .inl ⟨.redoFailed (BatchError.store e).message, t, ?_, .inr ⟨_, refuses⟩⟩
      simp only [redo, undone, run]
    · exact .inr ⟨action, older, t, rfl, by simp only [redo, undone, run], cells⟩

/-- Neither the action to be recorded nor one that can be undone is too old. -/
def NoneExpired (h : History) (stamp : Stamp) (now : Instant) : Prop :=
  ¬ h.config.maxAge < Duration.between stamp.recordedAt now ∧
    ∀ a ∈ h.done, ¬ h.config.maxAge < Duration.between a.recordedAt now

theorem push_of_noneExpired {h : History} {a : Action} {stamp : Stamp} {now : Instant}
    (young : h.NoneExpired stamp now) (stamped : a.recordedAt = stamp.recordedAt) :
    h.push a now = { h with done := (a :: h.done).take h.config.maxActions, undone := [] } := by
  let pushed := { h with done := (a :: h.done).take h.config.maxActions, undone := [] }
  have fresh : ∀ x ∈ pushed.done, pushed.isFresh now x = true := by
    intro x member
    rcases List.mem_cons.1 (List.mem_of_mem_take member) with rfl | older
    · simpa [isFresh, stamped] using young.1
    · simpa [isFresh] using young.2 x older
  have kept : pushed.done.filter (pushed.isFresh now) = pushed.done := List.filter_eq_self.2 fresh
  change (if h.config.autoEvict then (pushed.evict now).2 else pushed) = pushed
  split
  · simp only [evict, kept]
    rfl
  · rfl

end History

end CellLedger
