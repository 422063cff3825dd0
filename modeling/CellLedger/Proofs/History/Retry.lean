import CellLedger.Proofs.History.Effect
import CellLedger.Proofs.Operation.Attempts

/-!
Undo and redo attempted again after a failure (`move_retried`). A failed attempt leaves both stacks
alone and its operation interrupted: each selected cell is done or not. Run again, the operation does
the rest, whatever the kind, since it wants nothing more of a cell that is done.
-/

set_option autoImplicit false

namespace CellLedger

def Direction.failure : Direction → String → BatchError
  | .undo => .undoFailed
  | .redo => .redoFailed

namespace History

def move (h : History) : Direction → Store → Except BatchError OperationResult × History × Store
  | .undo => h.undo
  | .redo => h.redo

-- What the next undo or redo executes.
def operation? (h : History) : Direction → Option Operation
  | .undo => h.done.head?.map (·.undoOperation)
  | .redo => h.undone.head?.map (·.redo)

-- Whatever the operation does to the store, the stacks move only if it succeeds.
def carryOut (h next : History) (d : Direction) (op : Operation) (s : Store) :
    Except BatchError OperationResult × History × Store :=
  match op.execute s with
  | (.error e, t) => (.error (d.failure (BatchError.store e).message), h, t)
  | (.ok result, t) => (.ok result, next, t)

theorem move_cases (h : History) (d : Direction) :
    (∃ e, (∀ reason, e ≠ d.failure reason) ∧ ∀ s, h.move d s = (.error e, h, s)) ∨
      ∃ op next, h.operation? d = some op ∧ ∀ s, h.move d s = h.carryOut next d op s := by
  cases d with
  | undo =>
    cases done : h.done with
    | nil =>
      refine .inl ⟨.nothingToUndo, by simp [Direction.failure], fun s => ?_⟩
      simp only [move, undo, done]
    | cons action older =>
      cases objection : h.objection? action with
      | some reason =>
        refine .inl ⟨.undoInvalid reason, by simp [Direction.failure], fun s => ?_⟩
        simp only [move, undo, done, objection]
      | none =>
        let next := { h with done := older, undone := (action :: h.undone).take h.config.maxUndone }
        refine .inr ⟨action.undoOperation, next, by simp [operation?, done], fun s => ?_⟩
        simp only [move, undo, done, objection]
        rfl
  | redo =>
    cases undone : h.undone with
    | nil =>
      refine .inl ⟨.nothingToRedo, by simp [Direction.failure], fun s => ?_⟩
      simp only [move, redo, undone]
    | cons action older =>
      let next := { h with done := (action :: h.done).take h.config.maxActions, undone := older }
      refine .inr ⟨action.redo, next, by simp [operation?, undone], fun s => ?_⟩
      simp only [move, redo, undone]
      rfl

variable {h h' next : History} {d : Direction} {op : Operation} {s t : Store}

theorem carryOut_error {e : BatchError} (failed : h.carryOut next d op s = (.error e, h', t)) :
    h' = h ∧ op.Interrupted s.cells t.cells := by
  have interrupted := op.execute_interrupted s
  generalize run : op.execute s = outcome at interrupted
  obtain ⟨reply, u⟩ := outcome
  rw [carryOut, run] at failed
  cases reply <;> cases failed
  exact ⟨rfl, interrupted⟩

theorem carryOut_ok {result : OperationResult}
    (succeeded : h.carryOut next d op s = (.ok result, h', t)) :
    h' = next ∧ t.cells = op.apply s.cells := by
  generalize run : op.execute s = outcome
  obtain ⟨reply, u⟩ := outcome
  rw [carryOut, run] at succeeded
  cases reply <;> cases succeeded
  exact ⟨rfl, (Operation.execute_ok run).2⟩

theorem carryOut_of_healthy (h next : History) (d : Direction) (op : Operation)
    (healthy : s.Healthy) :
    ∃ result t, h.carryOut next d op s = (.ok result, next, t) ∧ t.cells = op.apply s.cells := by
  obtain ⟨answer, cells, _⟩ := Operation.execute_of_healthy healthy op
  have run : op.execute s = (.ok (op.report s.cells), (op.execute s).2) := by rw [← answer]
  refine ⟨op.report s.cells, (op.execute s).2, ?_, cells⟩
  rw [carryOut, run]

theorem move_error {e : BatchError} (failed : h.move d s = (.error e, h', t)) : h' = h := by
  rcases h.move_cases d with ⟨_, _, refused⟩ | ⟨op, next, _, executes⟩
  · rw [refused s] at failed
    cases failed
    rfl
  · rw [executes s] at failed
    exact (carryOut_error failed).1

/-- Attempts of one call that all fail. Between two of them faults may be armed and disarmed. -/
inductive Failing (d : Direction) : History → Store → History → Store → Prop
  | none (h : History) (s : Store) : Failing d h s h s
  | attempt {h h' h'' : History} {s t u v : Store} {e : BatchError}
      (failed : h.move d s = (.error e, h', t)) (same : u.cells = t.cells)
      (later : Failing d h' u h'' v) : Failing d h s h'' v

theorem Failing.of_refused (refused : (h.move d s).1.isOk = false)
    (later : Failing d (h.move d s).2.1 (h.move d s).2.2 h' t) : Failing d h s h' t := by
  cases run : h.move d s with
  | mk answer rest =>
    rw [run] at refused later
    cases answer with
    | error e => exact .attempt run rfl later
    | ok result => simp [Except.isOk, Except.toBool] at refused

theorem Failing.history_eq (failing : Failing d h s h' t) : h' = h := by
  induction failing with
  | none => rfl
  | attempt failed _ _ ih => rw [ih, move_error failed]

theorem Failing.interrupted (failing : Failing d h s h' t)
    (executes : ∀ s, h.move d s = h.carryOut next d op s) : op.Interrupted s.cells t.cells := by
  -- Each attempt starts from the same stacks, so that all run the same operation.
  induction failing with
  | none h s => exact .refl op s.cells
  | attempt failed same _ ih =>
    obtain rfl := move_error failed
    have later := ih executes
    rw [executes] at failed
    exact (carryOut_error failed).2.trans (same ▸ later)

theorem move_retried (h : History) (d : Direction) (s : Store) :
    (∀ reason h' t, h.move d s = (.error (d.failure reason), h', t) →
      h' = h ∧ (h.move d s.heal).1.isOk = true ∧ ∃ op, h.operation? d = some op ∧
        (∀ a ∈ op.selection.cells, t.cells.get? a = s.cells.get? a ∨
          t.cells.get? a = (h.move d s.heal).2.2.cells.get? a) ∧
        ∀ a, a ∉ op.selection.cells → t.cells.get? a = s.cells.get? a) ∧
    ∀ h' t result next u, Failing d h s h' t → h'.move d t = (.ok result, next, u) →
      (h.move d s.heal).1.isOk = true ∧ next = (h.move d s.heal).2.1 ∧
        u.cells = (h.move d s.heal).2.2.cells := by
  rcases h.move_cases d with ⟨e, other, refused⟩ | ⟨op, after, top, executes⟩
  · constructor
    · intro reason h' t failed
      rw [refused s] at failed
      exact absurd (Except.error.inj (congrArg Prod.fst failed)) (other reason)
    · intro h' t result next u failing succeeded
      rw [failing.history_eq, refused t] at succeeded
      cases succeeded
  · have calm : s.heal.Healthy := rfl
    obtain ⟨_, v, healed, cells⟩ := h.carryOut_of_healthy after d op calm
    rw [executes s.heal, healed]
    constructor
    · intro reason h' t failed
      rw [executes s] at failed
      obtain ⟨same, interrupted⟩ := carryOut_error failed
      refine ⟨same, rfl, op, top, fun a member => ?_, interrupted.elsewhere⟩
      have done : (op.apply s.cells).get? a = v.cells.get? a := by rw [cells]; rfl
      rw [← done]
      exact interrupted.selected a member
    · intro h' t result next u failing succeeded
      have interrupted := failing.interrupted executes
      rw [failing.history_eq, executes t] at succeeded
      obtain ⟨same, done⟩ := carryOut_ok succeeded
      refine ⟨rfl, same, ?_⟩
      rw [done, interrupted.apply_eq, cells]
      rfl

theorem move_retried_overwrite_off :
    let op : Operation := .setValue
      { selection := .range ⟨0, 0⟩ ⟨0, 2⟩, options := ⟨.text "x", false⟩, writable := rfl }
    let h := undoneOf op ∅
    let s : Store := { faults := { writes := [2, 4] } }
    let first := h.move .redo s
    let second := first.2.1.move .redo first.2.2
    let third := second.2.1.move .redo second.2.2
    h.Reachable ∧ h.operation? .redo = some op ∧
      -- The first two attempts fail, each at another cell.
      first.1.isOk = false ∧ first.2.2.cells.keys = [⟨0, 0⟩] ∧
      second.1.isOk = false ∧ second.2.2.cells.keys = [⟨0, 0⟩, ⟨0, 1⟩] ∧
      third.1.isOk = true ∧ third.2.1 = (h.move .redo s.heal).2.1 ∧
      third.2.2.cells = (h.move .redo s.heal).2.2.cells := by
  intro op h s first second third
  have reachable : h.Reachable := undoneOf_reachable op ∅
  have top : h.operation? .redo = some op := by decide +kernel
  have refused : first.1.isOk = false ∧ second.1.isOk = false := by decide +kernel
  have written : first.2.2.cells.keys = [⟨0, 0⟩] ∧
      second.2.2.cells.keys = [⟨0, 0⟩, ⟨0, 1⟩] := by decide +kernel
  have answered : third.1.isOk = true := by decide +kernel
  -- From here on nothing is to be computed.
  clear_value h s
  have failing : Failing .redo h s second.2.1 second.2.2 :=
    .of_refused refused.1 (.of_refused refused.2 (.none _ _))
  obtain ⟨result, run⟩ := exists_of_isOk answered
  obtain ⟨_, restored, cells⟩ := (move_retried h .redo s).2 _ _ _ _ _ failing run
  exact ⟨reachable, top, refused.1, written.1, refused.2, written.2, answered, restored, cells⟩

end History

end CellLedger
