import CellLedger.Proofs.Operation.Accesses

/-!
How an execution ends, whatever is refused (`execute_completes_or_halts`). Either no access is, and
the whole selection is done and reported; or it stops at the first cell with a refused access, with
the cells before it done and the others as they were.
-/

set_option autoImplicit false

namespace CellLedger.Operation

variable {op : Operation} {a : Address} {e : StoreError} {s t : Store}

theorem executeCells_ok {cells : List Address} (distinct : cells.Nodup)
    {changes made : ChangeSet} (run : op.executeCells cells changes s = (.ok made, t)) :
    op.Advanced cells s.cells t.cells := by
  rcases op.executeCells_cases distinct changes s with
    ⟨_, _, _, _, _, failed, _⟩ | ⟨u, finished, advanced, _⟩
  · simp [run] at failed
  · obtain ⟨_, rfl⟩ := Prod.mk.inj (run.symm.trans finished)
    exact advanced

/-- Carrying the cell out ends with this error: its reading is refused, or its writing after that. -/
inductive Refused (op : Operation) (a : Address) (e : StoreError) (s t : Store) : Prop
  | reading (refused : s.get a = (.error e, t))
  | writing {u : Store} {wanted : Option Value}
      (read : s.get a = (.ok (s.cells.get? a), u))
      (goal : op.goal? a (s.cells.get? a) = some wanted)
      (refused : u.put a wanted = (.error e, t))

theorem executeCell_error (run : op.executeCell a s = (.error e, t)) :
    op.Refused a e s t ∧ t.cells = s.cells := by
  rcases s.get_cases a with ⟨_, u, read, cells, _⟩ | ⟨u, read, cells, _⟩
  · simp only [executeCell, read, Prod.mk.injEq, Except.error.injEq] at run
    obtain ⟨rfl, rfl⟩ := run
    exact ⟨.reading read, cells⟩
  simp only [executeCell, read] at run
  cases goal : op.goal? a (s.cells.get? a) with
  | none => simp [goal] at run
  | some wanted =>
    rcases u.put_cases a wanted with ⟨_, v, written, cellsAfter, _⟩ | ⟨v, written, _⟩
    · simp only [goal, written, Prod.mk.injEq, Except.error.injEq] at run
      obtain ⟨rfl, rfl⟩ := run
      exact ⟨.writing read goal written, cellsAfter.trans cells⟩
    · simp [goal, written] at run

-- A failing run is a run over a first part that succeeds, and then one cell that fails.
theorem executeCells_error {cells : List Address} {changes : ChangeSet}
    (run : op.executeCells cells changes s = (.error e, t)) :
    ∃ before a after made u, cells = before ++ a :: after ∧
      op.executeCells before changes s = (.ok made, u) ∧ op.executeCell a u = (.error e, t) := by
  induction cells generalizing changes s with
  | nil => simp [executeCells] at run
  | cons a rest ih =>
    generalize step : op.executeCell a s = outcome
    obtain ⟨reply, u⟩ := outcome
    simp only [executeCells, step] at run
    cases reply with
    | error e =>
      cases run
      exact ⟨[], a, rest, changes, s, rfl, rfl, step⟩
    | ok change =>
      obtain ⟨before, b, after, made, v, split, granted, failed⟩ := ih run
      refine ⟨a :: before, b, after, made, v, by rw [split]; rfl, ?_, failed⟩
      simp only [executeCells, step, granted]

theorem warned_iff (op : Operation) (skipped : Nat) :
    (op.skipWarning? skipped).toList ≠ [] ↔
      (∃ set, op = .setValue set ∧ set.options.overwrite = false) ∧ 0 < skipped := by
  cases op with
  | setValue set =>
    cases off : set.options.overwrite <;> simp [skipWarning?, off, Nat.pos_iff_ne_zero]
  | clear selection => simp [skipWarning?]
  | replay changes direction => simp [skipWarning?]

/-- Every cell was visited without a refusal, and the result says what was done. -/
structure Completes (op : Operation) (result : OperationResult) (s t : Store) : Prop where
  visited : s.Logs t (op.visits s.cells)
  done : t.cells = (op.execute s.heal).2.cells
  success : result.success = true
  processed : result.cellsProcessed = op.selection.count
  modified : result.cellsModified = result.changes.size
  errors : result.errors = []
  warnings : result.warnings ≠ [] ↔
    (∃ set, op = .setValue set ∧ set.options.overwrite = false) ∧
      result.cellsModified < result.cellsProcessed

/-- The cells before `a` were visited without a refusal and are done; at `a` an access is refused. -/
structure Halts (op : Operation) (e : StoreError) (s t : Store) (a : Address) : Prop where
  selected : a ∈ op.selection.cells
  stop : ∃ made u, op.executeCells (op.selection.cells.filter (· < a)) ∅ s = (.ok made, u) ∧
    s.Logs u ((op.selection.cells.filter (· < a)).flatMap fun b => op.visit b (s.cells.get? b)) ∧
    op.Refused a e u t
  done : ∀ b ∈ op.selection.cells, b < a →
    t.cells.get? b = (op.execute s.heal).2.cells.get? b
  untouched : ∀ b, ¬ (b ∈ op.selection.cells ∧ b < a) → t.cells.get? b = s.cells.get? b

theorem execute_completes {result : OperationResult} (run : op.execute s = (.ok result, t)) :
    op.Completes result s t := by
  have visited := execute_logs run
  obtain ⟨rfl, cells⟩ := execute_ok run
  refine
    { visited, done := cells.trans (op.cells_execute_heal s).symm, success := rfl, processed := rfl,
      modified := rfl, errors := rfl, warnings := ?_ }
  refine (op.warned_iff _).trans (and_congr_right fun _ => ?_)
  simp only [report, resultOf]
  omega

theorem execute_halts (run : op.execute s = (.error e, t)) : ∃ a, op.Halts e s t a := by
  have failed : op.executeCells op.selection.cells ∅ s = (.error e, t) := by
    simp only [execute] at run
    split at run
    next step =>
      cases run
      exact step
    · cases run
  obtain ⟨before, a, after, made, u, split, granted, failedAt⟩ := executeCells_error failed
  obtain ⟨refused, same⟩ := executeCell_error failedAt
  have distinct : before.Nodup := (split ▸ op.selection.cells_nodup).of_append_left
  have advanced := executeCells_ok distinct granted
  have mem_before : ∀ {b}, b ∈ before ↔ b ∈ op.selection.cells ∧ b < a :=
    Selection.mem_before_iff split
  refine ⟨a, by simp [split], ?_, ?_, ?_⟩
  · rw [Selection.filter_below split]
    exact ⟨made, u, granted, executeCells_logs distinct granted, refused⟩
  · intro b member below
    rw [same, advanced b, if_pos (mem_before.2 ⟨member, below⟩), cells_execute_heal,
      get?_apply_of_mem member]
  · intro b later
    rw [same, advanced b, if_neg fun earlier => later (mem_before.1 earlier)]

theorem execute_completes_or_halts (op : Operation) (s : Store) :
    match op.execute s with
    | (.ok result, t) => op.Completes result s t
    | (.error e, t) => ∃ a, op.Halts e s t a := by
  generalize run : op.execute s = outcome
  obtain ⟨reply, t⟩ := outcome
  cases reply with
  | ok result => exact execute_completes run
  | error e => exact execute_halts run

end CellLedger.Operation
