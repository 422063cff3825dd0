import CellLedger.Proofs.History.Recording
import CellLedger.Proofs.History.Retry
import CellLedger.Proofs.Operation.Halting

/-!
Why an undo or redo fails (`Reachable.fails_only_if_refused`). Whatever was recorded, an action has
something to take back, so that no undo is found invalid: if there is something to undo or redo, only
an access that the store refuses stands against it, and the first one gives the reason.
-/

set_option autoImplicit false

namespace CellLedger

/-- All accesses on the way from `s` to `t` were granted but the last, which met with this error. -/
inductive Store.FirstRefused (s : Store) (e : StoreError) (t : Store) : Prop
  | reading {u : Store} {log : List Access} {a : Address} (logs : s.Logs u log)
      (granted : ∀ x ∈ log, x.refused = false) (refused : u.get a = (.error e, t))
  | writing {u : Store} {log : List Access} {a : Address} {v : Option Value} (logs : s.Logs u log)
      (granted : ∀ x ∈ log, x.refused = false) (refused : u.put a v = (.error e, t))

namespace Operation

variable {op : Operation} {a : Address} {e : StoreError} {s t : Store}

theorem granted_of_mem_visit {current : Option Value} {x : Access}
    (member : x ∈ op.visit a current) : x.refused = false := by
  rcases List.mem_cons.1 member with rfl | member
  · rfl
  · obtain ⟨v, _, rfl⟩ := Option.map_eq_some_iff.1 (Option.mem_toList.1 member)
    rfl

theorem Halts.firstRefused (halts : op.Halts e s t a) : s.FirstRefused e t := by
  obtain ⟨_, u, _, logs, refused⟩ := halts.stop
  have granted : ∀ x ∈ (op.selection.cells.filter (· < a)).flatMap
      fun b => op.visit b (s.cells.get? b), x.refused = false := by
    intro x member
    obtain ⟨b, _, member⟩ := List.mem_flatMap.1 member
    exact granted_of_mem_visit member
  cases refused with
  | reading refused => exact .reading logs granted refused
  | @writing v wanted read _ refused =>
    rcases u.get_logs a with ⟨_, _, failed, _⟩ | ⟨w, answered, _, one⟩
    · simp [read] at failed
    · obtain rfl : v = w := congrArg Prod.snd (read.symm.trans answered)
      refine .writing (logs.trans one) (fun x member => ?_) refused
      rcases List.mem_append.1 member with member | member
      · exact granted x member
      · obtain rfl := List.mem_singleton.1 member
        rfl

theorem Completes.unhindered {result : OperationResult} (completes : op.Completes result s t) :
    s.Unhindered t := by
  refine ⟨_, completes.visited.trace, fun x member => ?_⟩
  obtain ⟨b, _, member⟩ := List.mem_flatMap.1 member
  exact granted_of_mem_visit member

end Operation

namespace History

variable {h : History}

-- What the next undo or redo takes its action from.
def stack (h : History) : Direction → List Action
  | .undo => h.done
  | .redo => h.undone

theorem exists_operation {d : Direction} (filled : h.stack d ≠ []) :
    ∃ op, h.operation? d = some op := by
  cases d with
  | undo =>
    obtain ⟨action, older, done⟩ : ∃ action older, h.done = action :: older :=
      List.exists_cons_of_ne_nil filled
    exact ⟨action.undoOperation, by simp [operation?, done]⟩
  | redo =>
    obtain ⟨action, older, undone⟩ : ∃ action older, h.undone = action :: older :=
      List.exists_cons_of_ne_nil filled
    exact ⟨action.redo, by simp [operation?, undone]⟩

theorem WellFormed.objection?_eq_none (wellFormed : h.WellFormed) {a : Action} (done : a ∈ h.done) :
    h.objection? a = none := by
  rw [objection?, (wellFormed.done a done).undo_problem]
  split <;> rfl

-- Nothing is said against the action on top, so that its operation is executed.
theorem WellFormed.move_executes (wellFormed : h.WellFormed) {d : Direction} {op : Operation}
    (top : h.operation? d = some op) : ∃ next, ∀ s, h.move d s = h.carryOut next d op s := by
  cases d with
  | undo =>
    obtain ⟨action, head, rfl⟩ := Option.map_eq_some_iff.1 top
    obtain ⟨older, done⟩ := List.head?_eq_some_iff.1 head
    have valid : h.objection? action = none := wellFormed.objection?_eq_none (by simp [done])
    refine ⟨{ h with done := older, undone := (action :: h.undone).take h.config.maxUndone },
      fun s => ?_⟩
    simp only [move, History.undo, done, valid]
    rfl
  | redo =>
    obtain ⟨action, head, rfl⟩ := Option.map_eq_some_iff.1 top
    obtain ⟨older, undone⟩ := List.head?_eq_some_iff.1 head
    refine ⟨{ h with done := (action :: h.done).take h.config.maxActions, undone := older },
      fun s => ?_⟩
    simp only [move, History.redo, undone]
    rfl

theorem WellFormed.undo_valid (wellFormed : h.WellFormed) (s : Store) (reason : String) :
    (h.undo s).1 ≠ .error (.undoInvalid reason) := by
  cases top : h.operation? .undo with
  | none =>
    have done : h.done = [] := by simpa [operation?] using top
    simp [History.undo, done]
  | some op =>
    obtain ⟨next, executes⟩ := wellFormed.move_executes top
    have answer : h.undo s = h.carryOut next .undo op s := executes s
    rw [answer, carryOut]
    split <;> simp [Direction.failure]

theorem Reachable.fails_only_if_refused (reachable : h.Reachable) :
    (∀ a, a ∈ h.done ∨ a ∈ h.undone → a.changes ≠ ∅ ∧
      a.undoOperation.selection.cells = a.changes.keys ∧
      ∀ op, a.redoOperation = some op → op.isReplay = false) ∧
    (∀ config s reason, (History.undo { h with config } s).1 ≠ .error (.undoInvalid reason)) ∧
    ∀ d s, h.stack d ≠ [] →
      match h.move d s with
      | (.ok _, _, t) => s.Unhindered t
      | (.error e, next, t) => next = h ∧
        ∃ cause, e = d.failure (BatchError.store cause).message ∧ s.FirstRefused cause t := by
  have wellFormed := reachable.wellFormed
  -- What is said against an action does not depend on the configuration.
  have valid (config : HistoryConfig) : WellFormed { h with config } :=
    ⟨wellFormed.done, wellFormed.undone⟩
  refine ⟨fun a member => ?_, fun config => (valid config).undo_valid, fun d s filled => ?_⟩
  · have formed : a.WellFormed := member.elim (wellFormed.done a) (wellFormed.undone a)
    have altered : a.changes ≠ ∅ := fun empty => by
      simpa [SortedMap.isEmpty_iff.2 empty] using formed.altered
    exact ⟨altered, formed.undo_cells, formed.kept⟩
  · obtain ⟨op, top⟩ := exists_operation filled
    obtain ⟨next, executes⟩ := wellFormed.move_executes top
    rw [executes, carryOut]
    cases run : op.execute s with
    | mk reply t =>
      cases reply with
      | ok result => exact (Operation.execute_completes run).unhindered
      | error e =>
        obtain ⟨a, halts⟩ := Operation.execute_halts run
        exact ⟨rfl, e, rfl, halts.firstRefused⟩

-- The records are filed under other cells than they name, and the second of two writes is refused.
theorem Reachable.fails_only_if_refused_misfiled :
    let op : Operation := .overwriteText (.single ⟨0, 0⟩) "x"
    let changes : ChangeSet := .ofList
      [(⟨0, 0⟩, .record ⟨7, 7⟩ (some (.text "a")) none), (⟨0, 1⟩, .record ⟨0, 0⟩ none none),
        (⟨0, 2⟩, .record ⟨0, 2⟩ (some (.text "c")) none)]
    let start : History := { config := { validateUndo := true } }
    let h := (start.record op { op.report ∅ with changes } ⟨⟨0⟩, 0⟩ 0).2
    let s : Store := { faults := { writes := [2] } }
    h.Reachable ∧ h.stack .undo ≠ [] ∧
      (match h.move .undo s with
      | (.ok _, _, t) => s.Unhindered t
      | (.error e, next, t) => next = h ∧
        ∃ cause, e = Direction.undo.failure (BatchError.store cause).message ∧
          s.FirstRefused cause t) ∧
      (h.undo s).1 = .error (.undoFailed
        (BatchError.store (.writeRejected ⟨0, 2⟩ "injected failure on write 2")).message) ∧
      (h.undo s).2.2.cells.keys = [⟨0, 0⟩] := by
  intro op changes start h s
  have reachable : h.Reachable := (Reachable.start _).record _ _ _ _
  have filled : h.stack .undo ≠ [] := by decide +kernel
  exact ⟨reachable, filled, reachable.fails_only_if_refused.2.2 .undo s filled,
    by decide +kernel, by decide +kernel⟩

end History

end CellLedger
