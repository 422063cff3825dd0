import CellLedger.Operation.Execute
import CellLedger.Operation.Preview
import CellLedger.Proofs.Selection.Cells
import CellLedger.Proofs.Store.Access
import Mathlib.Data.List.Basic

/-!
What an execution does to the store, whatever is refused: `execute_cases`. It either reports what an
execution without faults reports and leaves what that leaves, or it ends at a refused access with a
first part of the selection done.
-/

set_option autoImplicit false

namespace CellLedger

namespace Operation

/-- What an execution without faults leaves in a selected cell that held `current`. -/
def target (op : Operation) (a : Address) (current : Option Value) : Option Value :=
  (op.goal? a current).getD current

theorem outcome_of_mem {op : Operation} {a : Address} (member : a ∈ op.selection.cells)
    (current : Option Value) : op.outcome a current = op.target a current := if_pos member

theorem outcome_of_not_mem {op : Operation} {a : Address} (outside : a ∉ op.selection.cells)
    (current : Option Value) : op.outcome a current = current := if_neg outside

/-- The records that an execution without faults makes of these contents. -/
def changesOn (op : Operation) (cells : Cells) : ChangeSet :=
  op.selection.cells.foldl (fun changes a => file changes a (op.prospect? a (cells.get? a))) ∅

def report (op : Operation) (cells : Cells) : OperationResult := op.resultOf (op.changesOn cells)

@[simp] theorem success_report (op : Operation) (cells : Cells) :
    (op.report cells).success = true := rfl

theorem get?_file (changes : ChangeSet) (a probe : Address) (change : Option Change) :
    (file changes a change).get? probe =
      if a = probe then change.or (changes.get? a) else changes.get? probe := by
  cases change with
  | none => by_cases same : a = probe <;> simp [file, same]
  | some c => simp [file, SortedMap.get?_insert]

theorem get?_foldl_file (op : Operation) (contents : Cells) {cells : List Address}
    (distinct : cells.Nodup) (changes : ChangeSet) (probe : Address) :
    (cells.foldl (fun changes a => file changes a (op.prospect? a (contents.get? a)))
        changes).get? probe =
      if probe ∈ cells then (op.prospect? probe (contents.get? probe)).or (changes.get? probe)
      else changes.get? probe := by
  induction cells generalizing changes with
  | nil => simp
  | cons a rest ih =>
    obtain ⟨absent, distinctRest⟩ := List.nodup_cons.1 distinct
    rw [List.foldl_cons, ih distinctRest, get?_file]
    by_cases same : a = probe
    · subst same
      simp [absent]
    · have other : probe ≠ a := fun h => same h.symm
      simp [same, other]

theorem get?_changesOn (op : Operation) (cells : Cells) (a : Address) :
    (op.changesOn cells).get? a =
      if a ∈ op.selection.cells then op.prospect? a (cells.get? a) else none := by
  rw [changesOn, get?_foldl_file op cells op.selection.cells_nodup]
  simp

theorem changesOn_congr {op : Operation} {cells other : Cells}
    (same : ∀ a ∈ op.selection.cells, cells.get? a = other.get? a) :
    op.changesOn cells = op.changesOn other := by
  refine SortedMap.ext_get? fun a => ?_
  rw [get?_changesOn, get?_changesOn]
  by_cases member : a ∈ op.selection.cells
  · simp [member, same a member]
  · simp [member]

theorem report_congr {op : Operation} {cells other : Cells}
    (same : ∀ a ∈ op.selection.cells, cells.get? a = other.get? a) :
    op.report cells = op.report other := by
  rw [report, report, changesOn_congr same]

theorem get?_foldl_assign (op : Operation) {cells : List Address} (distinct : cells.Nodup)
    (contents : Cells) (probe : Address) :
    (cells.foldl (fun contents a => contents.assign a (op.outcome a (contents.get? a)))
        contents).get? probe =
      if probe ∈ cells then op.outcome probe (contents.get? probe) else contents.get? probe := by
  induction cells generalizing contents with
  | nil => simp
  | cons a rest ih =>
    obtain ⟨absent, distinctRest⟩ := List.nodup_cons.1 distinct
    rw [List.foldl_cons, ih distinctRest, SortedMap.get?_assign]
    by_cases same : a = probe
    · subst same
      simp [absent]
    · have other : probe ≠ a := fun h => same h.symm
      simp [same, other]

theorem get?_apply (op : Operation) (cells : Cells) (a : Address) :
    (op.apply cells).get? a = op.outcome a (cells.get? a) := by
  rw [apply, get?_foldl_assign op op.selection.cells_nodup]
  by_cases member : a ∈ op.selection.cells
  · simp [member]
  · simp [member, outcome_of_not_mem]

theorem get?_apply_of_mem {op : Operation} {a : Address} (member : a ∈ op.selection.cells)
    (cells : Cells) : (op.apply cells).get? a = op.target a (cells.get? a) := by
  rw [get?_apply, outcome_of_mem member]

theorem get?_apply_of_not_mem {op : Operation} {a : Address} (outside : a ∉ op.selection.cells)
    (cells : Cells) : (op.apply cells).get? a = cells.get? a := by
  rw [get?_apply, outcome_of_not_mem outside]

theorem executeCell_cases (op : Operation) (a : Address) (s : Store) :
    (∃ e t, op.executeCell a s = (.error e, t) ∧ t.cells = s.cells ∧ s.Refuses t (· = a)) ∨
      ∃ t, op.executeCell a s = (.ok (op.prospect? a (s.cells.get? a)), t) ∧
        t.cells = s.cells.assign a (op.target a (s.cells.get? a)) ∧ s.Touches t (· = a) := by
  rcases s.get_cases a with ⟨e, t, read, cells, refuses⟩ | ⟨t, read, cells, touches⟩
  · exact .inl ⟨e, t, by simp only [executeCell, read], cells, refuses⟩
  · cases goal : op.goal? a (s.cells.get? a) with
    | none =>
      refine .inr ⟨t, ?_, ?_, touches⟩
      · simp only [executeCell, read, goal, prospect?, Option.map_none]
      · rw [target, goal, Option.getD_none, SortedMap.assign_get?_self, cells]
    | some wanted =>
      rcases t.put_cases a wanted with
        ⟨e, u, written, cellsAfter, refuses⟩ | ⟨u, written, cellsAfter, touchesMore⟩
      · refine .inl ⟨e, u, ?_, cellsAfter.trans cells, touches.refuses refuses⟩
        simp only [executeCell, read, goal, written]
      · refine .inr ⟨u, ?_, ?_, touches.trans touchesMore⟩
        · simp only [executeCell, read, goal, written, prospect?, Option.map_some]
        · rw [cellsAfter, cells, target, goal, Option.getD_some]

/-- Exactly the visited cells hold what an execution without faults leaves in them. -/
def Advanced (op : Operation) (visited : List Address) (before after : Cells) : Prop :=
  ∀ a, after.get? a =
    if a ∈ visited then op.target a (before.get? a) else before.get? a

theorem Advanced.cons {op : Operation} {a : Address} {visited : List Address}
    {before middle after : Cells} (first : middle = before.assign a (op.target a (before.get? a)))
    (rest : op.Advanced visited middle after) (fresh : a ∉ visited) :
    op.Advanced (a :: visited) before after := by
  intro probe
  rw [rest probe, first, SortedMap.get?_assign]
  by_cases same : a = probe
  · subst same
    simp [fresh]
  · have other : probe ≠ a := fun h => same h.symm
    simp [same, other]

theorem executeCells_cases (op : Operation) {cells : List Address} (distinct : cells.Nodup)
    (changes : ChangeSet) (s : Store) :
    (∃ e t visited a rest, op.executeCells cells changes s = (.error e, t) ∧
        cells = visited ++ a :: rest ∧ op.Advanced visited s.cells t.cells ∧
        s.Refuses t (· ∈ cells)) ∨
      ∃ t, op.executeCells cells changes s =
          (.ok (cells.foldl (fun changes a => file changes a (op.prospect? a (s.cells.get? a)))
            changes), t) ∧
        op.Advanced cells s.cells t.cells ∧ s.Touches t (· ∈ cells) := by
  -- The cells are visited in order, and the execution ends at the first refused access.
  induction cells generalizing changes s with
  | nil => exact .inr ⟨s, rfl, fun a => by simp, .refl s _⟩
  | cons a rest ih =>
    obtain ⟨absent, distinctRest⟩ := List.nodup_cons.1 distinct
    rcases op.executeCell_cases a s with ⟨e, t, step, cells, refuses⟩ | ⟨t, step, cells, touches⟩
    · refine .inl ⟨e, t, [], a, rest, ?_, rfl, fun b => by simp [cells],
        refuses.mono fun b same => by simp [same]⟩
      simp only [executeCells, step]
    · have touchesHead : s.Touches t (· ∈ a :: rest) := touches.mono fun b same => by simp [same]
      have within : ∀ b ∈ rest, b ∈ a :: rest := fun b => List.mem_cons_of_mem a
      -- The cells still to come hold what they held, since the first cell is not among them.
      have unread : ∀ b ∈ rest, t.cells.get? b = s.cells.get? b := by
        intro b member
        exact touches.frame fun same => absent (same ▸ member)
      rcases ih distinctRest (file changes a (op.prospect? a (s.cells.get? a))) t with
        ⟨e, u, visited, b, later, run, split, advanced, refuses⟩ | ⟨u, run, advanced, touchesRest⟩
      · have fresh : a ∉ visited := fun member => absent (by simp [split, member])
        refine .inl ⟨e, u, a :: visited, b, later, ?_, by simp [split],
          advanced.cons cells fresh, touchesHead.refuses (refuses.mono within)⟩
        simp only [executeCells, step, run]
      · refine .inr ⟨u, ?_, advanced.cons cells absent,
          touchesHead.trans (touchesRest.mono within)⟩
        simp only [executeCells, step, run, List.foldl_cons]
        congr 2
        exact List.foldl_ext _ _ _ fun changes b member => by rw [unread b member]

theorem execute_cases (op : Operation) (s : Store) :
    (∃ e t visited a rest, op.execute s = (.error e, t) ∧
        op.selection.cells = visited ++ a :: rest ∧ op.Advanced visited s.cells t.cells ∧
        s.Refuses t (· ∈ op.selection.cells)) ∨
      ∃ t, op.execute s = (.ok (op.report s.cells), t) ∧ t.cells = op.apply s.cells ∧
        s.Touches t (· ∈ op.selection.cells) := by
  rcases op.executeCells_cases op.selection.cells_nodup ∅ s with
    ⟨e, t, visited, a, rest, run, split, advanced, refuses⟩ | ⟨t, run, advanced, touches⟩
  · exact .inl ⟨e, t, visited, a, rest, by simp only [execute, run], split, advanced, refuses⟩
  · refine .inr ⟨t, by simp only [execute, run]; rfl, ?_, touches⟩
    refine SortedMap.ext_get? fun a => ?_
    rw [advanced a]
    by_cases member : a ∈ op.selection.cells
    · rw [if_pos member, get?_apply_of_mem member]
    · rw [if_neg member, get?_apply_of_not_mem member]

theorem execute_ok {op : Operation} {result : OperationResult} {s t : Store}
    (run : op.execute s = (.ok result, t)) :
    result = op.report s.cells ∧ t.cells = op.apply s.cells := by
  rcases op.execute_cases s with ⟨_, _, _, _, _, failed, _⟩ | ⟨u, finished, cells, _⟩
  · simp [run] at failed
  · obtain ⟨reply, rfl⟩ := Prod.mk.inj (run.symm.trans finished)
    exact ⟨Except.ok.inj reply, cells⟩

theorem execute_touches (op : Operation) (s : Store) :
    s.Touches (op.execute s).2 (· ∈ op.selection.cells) := by
  rcases op.execute_cases s with ⟨_, _, _, _, _, run, _, _, refuses⟩ | ⟨_, run, _, touches⟩
  · rw [run]
    exact refuses.touches
  · rw [run]
    exact touches

theorem execute_of_unhindered {op : Operation} {s : Store}
    (clear : s.Unhindered (op.execute s).2) :
    ∃ t, op.execute s = (.ok (op.report s.cells), t) ∧ t.cells = op.apply s.cells := by
  rcases op.execute_cases s with ⟨e, t, _, _, _, run, _, _, refuses⟩ | ⟨t, run, cells, _⟩
  · rw [run] at clear
    exact absurd clear refuses.not_unhindered
  · exact ⟨t, run, cells⟩

theorem execute_of_healthy {s : Store} (plan : s.Healthy) (op : Operation) :
    (op.execute s).1 = .ok (op.report s.cells) ∧ (op.execute s).2.cells = op.apply s.cells ∧
      (op.execute s).2.Healthy := by
  have touches := op.execute_touches s
  obtain ⟨t, run, cells⟩ := execute_of_unhindered (touches.unhindered plan)
  rw [run] at touches ⊢
  exact ⟨rfl, cells, touches.healthy plan⟩

theorem cells_execute_heal (op : Operation) (s : Store) :
    (op.execute s.heal).2.cells = op.apply s.cells := by
  have calm : s.heal.Healthy := rfl
  exact (execute_of_healthy calm op).2.1

-- The store after all operations in order, whatever each of them answered.
def executeAll : List Operation → Store → Store
  | [], s => s
  | op :: rest, s => executeAll rest (op.execute s).2

def applyAll : List Operation → Cells → Cells
  | [], cells => cells
  | op :: rest, cells => applyAll rest (op.apply cells)

theorem applyAll_append (operations more : List Operation) (cells : Cells) :
    applyAll (operations ++ more) cells = applyAll more (applyAll operations cells) := by
  induction operations generalizing cells with
  | nil => rfl
  | cons op rest ih => exact ih (op.apply cells)

theorem cells_executeAll_of_healthy {s : Store} (plan : s.Healthy) (operations : List Operation) :
    (executeAll operations s).cells = applyAll operations s.cells := by
  induction operations generalizing s with
  | nil => rfl
  | cons op rest ih =>
    obtain ⟨_, cells, healthy⟩ := execute_of_healthy plan op
    rw [executeAll, applyAll, ih healthy, cells]

end Operation

end CellLedger
