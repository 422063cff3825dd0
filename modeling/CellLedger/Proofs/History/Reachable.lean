import CellLedger.Proofs.History.Bridges

/-!
The histories that calls lead to, whatever results are recorded in them and whatever the store holds
when an action is undone or redone. Their actions are well formed: `Reachable.wellFormed`.
-/

set_option autoImplicit false

namespace CellLedger

/-- The action has changes, which its undo operation takes back, and it keeps no replay. -/
structure Action.WellFormed (a : Action) : Prop where
  altered : a.changes.isEmpty = false
  undo : a.undoOperation = .deriveUndo a.changes
  kept : ∀ op, a.redoOperation = some op → op.isReplay = false

theorem Action.WellFormed.ofOperation {changes : ChangeSet} (altered : changes.isEmpty = false)
    (op : Operation) (stamp : Stamp) : (ofOperation op changes stamp).WellFormed where
  altered := altered
  undo := rfl
  kept p kept := by
    have kept : op.reusable? = some p := kept
    rw [Operation.reusable?] at kept
    split at kept
    · simp at kept
    · next written =>
      rw [← Option.some.inj kept]
      simpa using written

theorem Action.WellFormed.ofBatch {result : BatchResult} (altered : result.changes.isEmpty = false)
    (operations : List Operation) (stamp : Stamp) :
    (ofBatch operations result stamp).WellFormed := by
  match operations with
  | [op] =>
    have single := ofOperation altered op stamp
    exact ⟨altered, rfl, single.kept⟩
  | [] => exact ⟨altered, rfl, by simp [Action.ofBatch]⟩
  | _ :: _ :: _ => exact ⟨altered, rfl, by simp [Action.ofBatch]⟩

-- The changes of an action are not empty, so that there is something to take back.
theorem Action.WellFormed.undo_problem {a : Action} (wellFormed : a.WellFormed) :
    a.undoOperation.problem? = none := by
  have cells : a.undoOperation.selection.cells = a.changes.keys := by
    rw [wellFormed.undo, Operation.deriveUndo, Operation.selection_derive]
    rfl
  have altered := wellFormed.altered
  rw [Operation.problem?, Selection.isEmpty, cells, if_neg]
  simpa [SortedMap.keys, SortedMap.isEmpty] using altered

namespace History

theorem exists_of_isOk {answer : Except BatchError OperationResult × History × Store}
    (answered : answer.1.isOk = true) : ∃ result, answer = (.ok result, answer.2) := by
  cases answer with
  | mk reply rest =>
    cases reply with
    | error e => simp [Except.isOk, Except.toBool] at answered
    | ok result => exact ⟨result, rfl⟩

/-- Any results may be recorded, and the store may be any when an action is undone or redone. -/
inductive Reachable : History → Prop
  | start (config : HistoryConfig) : Reachable { config }
  | record {h : History} (reached : Reachable h) (op : Operation) (result : OperationResult)
      (stamp : Stamp) (now : Instant) : Reachable (h.record op result stamp now).2
  | recordBatch {h : History} (reached : Reachable h) (operations : List Operation)
      (result : BatchResult) (stamp : Stamp) (now : Instant) :
      Reachable (h.recordBatch operations result stamp now).2
  | undo {h : History} (reached : Reachable h) (s : Store) : Reachable (h.undo s).2.1
  | redo {h : History} (reached : Reachable h) (s : Store) : Reachable (h.redo s).2.1
  | evict {h : History} (reached : Reachable h) (now : Instant) : Reachable (h.evict now).2
  | clear {h : History} (reached : Reachable h) : Reachable h.clear

structure WellFormed (h : History) : Prop where
  done : ∀ a ∈ h.done, a.WellFormed
  undone : ∀ a ∈ h.undone, a.WellFormed

variable {h : History}

theorem WellFormed.evict (wellFormed : h.WellFormed) (now : Instant) :
    (h.evict now).2.WellFormed where
  done a member := wellFormed.done a (List.mem_filter.1 member).1
  undone a member := wellFormed.undone a (List.mem_filter.1 member).1

theorem WellFormed.push (wellFormed : h.WellFormed) {action : Action} (formed : action.WellFormed)
    (now : Instant) : (h.push action now).WellFormed := by
  have pushed : WellFormed
      { h with done := (action :: h.done).take h.config.maxActions, undone := [] } := by
    refine ⟨fun a member => ?_, by simp⟩
    rcases List.mem_cons.1 (List.mem_of_mem_take member) with rfl | member
    · exact formed
    · exact wellFormed.done a member
  simp only [History.push]
  split
  · exact pushed.evict now
  · exact pushed

-- What failed or altered nothing leaves the history alone.
theorem WellFormed.take (wellFormed : h.WellFormed) {success : Bool} {changes : ChangeSet}
    {action : Action} (formed : changes.isEmpty = false → action.WellFormed) (id : ActionId)
    (now : Instant) :
    (if !success || changes.isEmpty then (none, h)
      else (some id, h.push action now)).2.WellFormed := by
  split
  · exact wellFormed
  · next recorded =>
    exact wellFormed.push (formed (by simp at recorded; exact recorded.2)) now

theorem WellFormed.undo (wellFormed : h.WellFormed) (s : Store) : (h.undo s).2.1.WellFormed := by
  rcases h.undo_cases s with ⟨e, t, run, _⟩ | ⟨action, older, t, top, run, _⟩
  · rw [run]
    exact wellFormed
  · rw [run]
    refine ⟨fun a member => wellFormed.done a (by simp [top, member]), fun a member => ?_⟩
    rcases List.mem_cons.1 (List.mem_of_mem_take member) with rfl | member
    · exact wellFormed.done a (by simp [top])
    · exact wellFormed.undone a member

theorem WellFormed.redo (wellFormed : h.WellFormed) (s : Store) : (h.redo s).2.1.WellFormed := by
  rcases h.redo_cases s with ⟨e, t, run, _⟩ | ⟨action, older, t, top, run, _⟩
  · rw [run]
    exact wellFormed
  · rw [run]
    refine ⟨fun a member => ?_, fun a member => wellFormed.undone a (by simp [top, member])⟩
    rcases List.mem_cons.1 (List.mem_of_mem_take member) with rfl | member
    · exact wellFormed.undone a (by simp [top])
    · exact wellFormed.done a member

theorem Reachable.wellFormed (reachable : h.Reachable) : h.WellFormed := by
  induction reachable with
  | start config => exact ⟨by simp, by simp⟩
  | record _ op result stamp now ih =>
    exact ih.take (fun altered => .ofOperation altered op stamp) _ _
  | recordBatch _ operations result stamp now ih =>
    exact ih.take (fun altered => .ofBatch altered operations stamp) _ _
  | undo _ s ih => exact ih.undo s
  | redo _ s ih => exact ih.redo s
  | evict _ now ih => exact ih.evict now
  | clear => exact ⟨by simp [History.clear], by simp [History.clear]⟩

end History

end CellLedger
