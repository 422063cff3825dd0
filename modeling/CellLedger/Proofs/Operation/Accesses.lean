import CellLedger.Proofs.Change.Difference

/-!
The accesses of an execution that succeeds (`execute_logs`). Every selected cell is read once, row
by row, and written once, right after it was read, if the operation alters it and not otherwise.
-/

set_option autoImplicit false

namespace CellLedger

open Store (writeKind)

def accessesTo (a : Address) (log : List Access) : List Access :=
  log.filter fun x => x.address = a

section Log

variable {log more : List Access} {a : Address}

theorem accessesTo_append (a : Address) (log more : List Access) :
    accessesTo a (log ++ more) = accessesTo a log ++ accessesTo a more := by
  simp [accessesTo]

theorem accessesTo_eq_nil (elsewhere : ∀ x ∈ log, x.address ≠ a) : accessesTo a log = [] :=
  List.filter_eq_nil_iff.2 fun x member => by simp [elsewhere x member]

theorem accessesTo_eq_self (here : ∀ x ∈ log, x.address = a) : accessesTo a log = log :=
  List.filter_eq_self.2 fun x member => by simp [here x member]

-- Each cell of the list has accesses of its own, and no cell is listed twice.
theorem accessesTo_flatMap {accesses : Address → List Access} {cells : List Address}
    (own : ∀ b, ∀ x ∈ accesses b, x.address = b) (distinct : cells.Nodup) (a : Address) :
    accessesTo a (cells.flatMap accesses) = if a ∈ cells then accesses a else [] := by
  induction cells with
  | nil => rfl
  | cons b rest ih =>
    obtain ⟨absent, distinctRest⟩ := List.nodup_cons.1 distinct
    rw [List.flatMap_cons, accessesTo_append, ih distinctRest]
    by_cases same : a = b
    · subst same
      rw [accessesTo_eq_self (own a), if_neg absent, List.append_nil, if_pos (by simp)]
    · have elsewhere : ∀ x ∈ accesses b, x.address ≠ a := by
        intro x member here
        exact same (here.symm.trans (own b x member))
      rw [accessesTo_eq_nil elsewhere, List.nil_append]
      simp [same]

end Log

namespace Operation

variable {op : Operation} {a : Address}

-- The accesses to a cell that holds `current`, if none of them is refused.
def visit (op : Operation) (a : Address) (current : Option Value) : List Access :=
  ⟨.get, a, false⟩ :: ((op.goal? a current).map fun v => ⟨writeKind v, a, false⟩).toList

def visits (op : Operation) (cells : Cells) : List Access :=
  op.selection.cells.flatMap fun a => op.visit a (cells.get? a)

theorem address_of_mem_visit {current : Option Value} {x : Access}
    (member : x ∈ op.visit a current) : x.address = a := by
  simp only [visit, List.mem_cons, Option.mem_toList, Option.map_eq_some_iff] at member
  rcases member with rfl | ⟨v, _, rfl⟩ <;> rfl

theorem visits_congr {cells other : Cells}
    (same : ∀ a ∈ op.selection.cells, cells.get? a = other.get? a) :
    op.visits cells = op.visits other :=
  List.flatMap_congr fun a member => by rw [same a member]

theorem accessesTo_visits (op : Operation) (cells : Cells) (a : Address) :
    accessesTo a (op.visits cells) =
      if a ∈ op.selection.cells then op.visit a (cells.get? a) else [] :=
  accessesTo_flatMap (fun _ _ => address_of_mem_visit) op.selection.cells_nodup a

-- The cell is written just if it is recorded, with what the record says.
theorem visit_of_between {changes : ChangeSet} {before after : Cells}
    (between : changes.Between before after)
    (effect : after.get? a = op.target a (before.get? a)) :
    op.visit a (before.get? a) =
      ⟨.get, a, false⟩ ::
        ((changes.get? a).map fun c => ⟨writeKind c.after, a, false⟩).toList := by
  cases goal : op.goal? a (before.get? a) with
  | none =>
    have same : after.get? a = before.get? a := by simp [effect, target, goal]
    have unrecorded : a ∉ changes.keys := fun recorded => by
      simpa [same] using (between.altered a).1 recorded
    simp [visit, goal, SortedMap.get?_eq_none_iff.2 unrecorded]
  | some wanted =>
    have written : after.get? a = wanted := by simp [effect, target, goal]
    have recorded : a ∈ changes.keys :=
      (between.altered a).2 (written ▸ (goal?_eq_some goal).2)
    obtain ⟨c, found⟩ := SortedMap.mem_keys_iff.1 recorded
    obtain ⟨_, _, told⟩ := between.faithful a c found
    simp [visit, goal, found, told, written]

theorem executeCell_logs {change : Option Change} {s t : Store}
    (run : op.executeCell a s = (.ok change, t)) :
    s.Logs t (op.visit a (s.cells.get? a)) := by
  rcases s.get_logs a with ⟨_, _, read, _⟩ | ⟨u, read, _, logs⟩
  · simp [executeCell, read] at run
  simp only [executeCell, read] at run
  cases goal : op.goal? a (s.cells.get? a) with
  | none =>
    simp only [goal, Prod.mk.injEq] at run
    obtain ⟨_, rfl⟩ := run
    simpa [visit, goal] using logs
  | some wanted =>
    rcases u.put_logs a wanted with ⟨_, _, written, _⟩ | ⟨v, written, _, logsToo⟩
    · simp [goal, written] at run
    · simp only [goal, written, Prod.mk.injEq] at run
      obtain ⟨_, rfl⟩ := run
      simpa [visit, goal] using logs.trans logsToo

theorem executeCells_logs {cells : List Address} (distinct : cells.Nodup)
    {changes made : ChangeSet} {s t : Store}
    (run : op.executeCells cells changes s = (.ok made, t)) :
    s.Logs t (cells.flatMap fun a => op.visit a (s.cells.get? a)) := by
  induction cells generalizing changes s with
  | nil =>
    obtain ⟨_, rfl⟩ := Prod.mk.inj run
    exact .refl s
  | cons a rest ih =>
    obtain ⟨absent, distinctRest⟩ := List.nodup_cons.1 distinct
    generalize step : op.executeCell a s = outcome
    obtain ⟨reply, u⟩ := outcome
    cases reply with
    | error e => simp [executeCells, step] at run
    | ok change =>
      simp only [executeCells, step] at run
      have first := executeCell_logs step
      -- The cells still to come hold what they held, since the first cell is not among them.
      have unread : ∀ b ∈ rest, op.visit b (u.cells.get? b) = op.visit b (s.cells.get? b) := by
        intro b member
        rw [first.frame b]
        rintro x listed rfl
        exact absent (address_of_mem_visit listed ▸ member)
      rw [List.flatMap_cons, ← List.flatMap_congr unread]
      exact first.trans (ih distinctRest run)

theorem execute_logs {result : OperationResult} {s t : Store}
    (run : op.execute s = (.ok result, t)) : s.Logs t (op.visits s.cells) := by
  generalize step : op.executeCells op.selection.cells ∅ s = outcome at run
  obtain ⟨reply, u⟩ := outcome
  cases reply with
  | error e => simp [execute, step] at run
  | ok made =>
    simp only [execute, step, Prod.mk.injEq] at run
    obtain ⟨_, rfl⟩ := run
    exact executeCells_logs op.selection.cells_nodup step

end Operation

end CellLedger
