import CellLedger.Proofs.History.Reachable

/-!
What an undo and a redo that meet no fault do to the contents, whatever the store holds by then
(`Reachable.drives_or_reruns`). An undo drives the recorded cells to what they held before and
touches no other. A redo drives them to what they held after, unless the action keeps its operation:
then that operation is run again, which may leave a recorded cell as it is and alter others.
-/

set_option autoImplicit false

namespace CellLedger

/-- Every recorded cell comes to the recorded value, and no other cell is altered. -/
structure ChangeSet.Drives (changes : ChangeSet) (direction : Direction) (before after : Cells) :
    Prop where
  recorded : ∀ a c, changes.get? a = some c →
    Value.sameContents (after.get? a) (c.side direction) = true
  elsewhere : ∀ a, a ∉ changes.keys → after.get? a = before.get? a

namespace Operation

variable {op : Operation} {a : Address} {changes : ChangeSet} {contents : Cells}

theorem derive_drives (changes : ChangeSet) (direction : Direction) (before : Cells) :
    changes.Drives direction before ((derive changes direction).apply before) := by
  refine ⟨fun a c found => ?_, fun a absent => apply_derive_unrecorded absent⟩
  rw [apply_derive_recorded (SortedMap.mem_keys_iff.2 ⟨c, found⟩)]
  exact target_derive found

-- Whether the operation passes over cells that hold a value.
def leavesFilled : Operation → Bool
  | .setValue set => !set.options.overwrite
  | _ => false

theorem target_of_planned {other wanted : Option Value} (planned : op.plan a other = some wanted)
    (current : Option Value) :
    Value.sameContents (op.target a current) wanted = true ∨
      (op.leavesFilled = true ∧ current.isSome = true ∧ op.target a current = current) := by
  cases op with
  | setValue set =>
    have value : some set.options.value = wanted := by
      simp only [plan, Option.ite_none_left_eq_some, Option.some.injEq] at planned
      exact planned.2
    by_cases passed : (current.isSome && !set.options.overwrite) = true
    · obtain ⟨filled, kept⟩ := Bool.and_eq_true_iff.1 passed
      exact .inr ⟨kept, filled, by simp [target, goal?, plan, passed]⟩
    · exact .inl (target_of_plan (by simp [plan, passed, value]))
  | clear selection =>
    have value : none = wanted := by
      simp only [plan, Option.ite_none_right_eq_some, Option.some.injEq] at planned
      exact planned.2
    rw [target_clear, ← value]
    exact .inl rfl
  | replay changes direction => exact .inl (target_of_plan planned)

/-- What running the operation again comes to. The records tell of a run on some contents, the
difference between what the cells held then and what they hold now decides the rest. -/
structure Reruns (op : Operation) (changes : ChangeSet) (before after : Cells) : Prop where
  effect : after = op.apply before
  recorded : ∀ contents, changes.Between contents (op.apply contents) →
    ∀ a c, changes.get? a = some c → Value.sameContents (after.get? a) c.after = true ∨
      (op.leavesFilled = true ∧ (before.get? a).isSome = true ∧ after.get? a = before.get? a)
  elsewhere : ∀ contents, changes.Between contents (op.apply contents) →
    ∀ a, a ∉ changes.keys → after.get? a ≠ before.get? a →
      a ∈ op.selection.cells ∧ Value.sameContents (before.get? a) (contents.get? a) = false

theorem plan_of_recorded (between : changes.Between contents (op.apply contents)) {c : Change}
    (found : changes.get? a = some c) :
    a ∈ op.selection.cells ∧ op.plan a (contents.get? a) = some c.after := by
  have altered := (between.altered a).1 (SortedMap.mem_keys_iff.2 ⟨c, found⟩)
  obtain ⟨_, _, last⟩ := between.faithful a c found
  rw [get?_apply] at altered last
  by_cases member : a ∈ op.selection.cells
  · rw [outcome_of_mem member, target] at altered last
    cases goal : op.goal? a (contents.get? a) with
    | none => simp [goal] at altered
    | some wanted =>
      rw [goal, Option.getD_some] at last
      exact ⟨member, last ▸ (goal?_eq_some goal).1⟩
  · simp [outcome_of_not_mem member] at altered

theorem goal?_of_unrecorded (between : changes.Between contents (op.apply contents))
    (absent : a ∉ changes.keys) (member : a ∈ op.selection.cells) :
    op.goal? a (contents.get? a) = none := by
  have same := between.unaltered a absent
  rw [get?_apply_of_mem member, target] at same
  refine Option.eq_none_iff_forall_ne_some.2 fun wanted goal => ?_
  -- A goal is never equal to what the cell holds.
  have different := (goal?_eq_some goal).2
  rw [goal, Option.getD_some] at same
  simp [same] at different

theorem apply_reruns (op : Operation) (changes : ChangeSet) (before : Cells) :
    op.Reruns changes before (op.apply before) where
  effect := rfl
  recorded contents between a c found := by
    obtain ⟨member, planned⟩ := plan_of_recorded between found
    rw [get?_apply_of_mem member]
    exact target_of_planned planned _
  elsewhere contents between a absent altered := by
    rw [get?_apply] at altered
    have member : a ∈ op.selection.cells := by
      by_contra outside
      exact altered (outcome_of_not_mem outside _)
    refine ⟨member, Bool.eq_false_iff.2 fun same => altered ?_⟩
    rw [outcome_of_mem member, target, op.goal?_congr same,
      goal?_of_unrecorded between absent member, Option.getD_none]

end Operation

namespace History

variable {h : History} {s : Store} {action : Action} {older : List Action}

theorem undo_of_unhindered (top : h.done = action :: older)
    (valid : action.undoOperation.problem? = none) (unhindered : s.Unhindered (h.undo s).2.2) :
    (h.undo s).1.isOk = true ∧ (h.undo s).2.2.cells = action.undoOperation.apply s.cells := by
  have unobjected : h.objection? action = none := by
    rw [objection?, valid, ite_self]
  have store : (h.undo s).2.2 = (action.undoOperation.execute s).2 := by
    simp only [undo, top, unobjected]
    rcases action.undoOperation.execute s with ⟨_ | _, t⟩ <;> rfl
  obtain ⟨t, run, cells⟩ := Operation.execute_of_unhindered (store ▸ unhindered)
  simp only [undo, top, unobjected, run]
  exact ⟨rfl, cells⟩

theorem redo_of_unhindered (top : h.undone = action :: older)
    (unhindered : s.Unhindered (h.redo s).2.2) :
    (h.redo s).1.isOk = true ∧ (h.redo s).2.2.cells = action.redo.apply s.cells := by
  have store : (h.redo s).2.2 = (action.redo.execute s).2 := by
    simp only [redo, top]
    rcases action.redo.execute s with ⟨_ | _, t⟩ <;> rfl
  obtain ⟨t, run, cells⟩ := Operation.execute_of_unhindered (store ▸ unhindered)
  simp only [redo, top, run]
  exact ⟨rfl, cells⟩

theorem Reachable.drives_or_reruns (reachable : h.Reachable) (s : Store) :
    (∀ action older, h.done = action :: older → s.Unhindered (h.undo s).2.2 →
      (h.undo s).1.isOk = true ∧
        action.changes.Drives .undo s.cells (h.undo s).2.2.cells) ∧
    ∀ action older, h.undone = action :: older → s.Unhindered (h.redo s).2.2 →
      (h.redo s).1.isOk = true ∧
        match action.redoOperation with
        | none => action.changes.Drives .redo s.cells (h.redo s).2.2.cells
        | some op => op.Reruns action.changes s.cells (h.redo s).2.2.cells := by
  refine ⟨fun action older top unhindered => ?_, fun action older top unhindered => ?_⟩
  · have formed := reachable.wellFormed.done action (by simp [top])
    obtain ⟨answered, cells⟩ := undo_of_unhindered top formed.undo_problem unhindered
    rw [cells, formed.undo]
    exact ⟨answered, Operation.derive_drives action.changes .undo s.cells⟩
  · obtain ⟨answered, cells⟩ := redo_of_unhindered top unhindered
    rw [cells]
    refine ⟨answered, ?_⟩
    cases kept : action.redoOperation with
    | none =>
      simp only [Action.redo, kept]
      exact Operation.derive_drives action.changes .redo s.cells
    | some op =>
      simp only [Action.redo, kept]
      exact op.apply_reruns action.changes s.cells

-- The history in which one operation was carried out, recorded and undone.
def undoneOf (op : Operation) (cells : Cells) : History :=
  ((record {} op (op.report cells) ⟨⟨0⟩, 0⟩ 0).2.undo (.ofCells (op.apply cells))).2.1

theorem undoneOf_reachable (op : Operation) (cells : Cells) : (undoneOf op cells).Reachable :=
  .undo (.record (.start {}) op _ _ _) _

-- The operation fills the first of two cells and passes over the second. Since it was undone, the
-- first has been filled by someone else, and the second emptied.
theorem Reachable.drives_or_reruns_refilled :
    let op : Operation := .setValue ⟨.range ⟨0, 0⟩ ⟨0, 1⟩, ⟨.text "x", false⟩, rfl⟩
    let cells := (∅ : Cells).insert ⟨0, 1⟩ (.text "z")
    let action := Action.ofOperation op (op.changesOn cells) ⟨⟨0⟩, 0⟩
    let h := undoneOf op cells
    let s := Store.ofCells ((∅ : Cells).insert ⟨0, 0⟩ (.text "y"))
    h.Reachable ∧ h.undone = [action] ∧ s.Unhindered (h.redo s).2.2 ∧
      (h.redo s).1.isOk = true ∧ op.Reruns action.changes s.cells (h.redo s).2.2.cells := by
  intro op cells action h s
  have reachable : h.Reachable := undoneOf_reachable _ _
  have top : h.undone = [action] := by decide +kernel
  have unhindered : s.Unhindered (h.redo s).2.2 :=
    ⟨[⟨.get, ⟨0, 0⟩, false⟩, ⟨.get, ⟨0, 1⟩, false⟩, ⟨.set, ⟨0, 1⟩, false⟩], by decide +kernel,
      by simp⟩
  exact ⟨reachable, top, unhindered, (reachable.drives_or_reruns s).2 action [] top unhindered⟩

theorem redo_not_driven_to_records :
    let op : Operation := .setValue ⟨.range ⟨0, 0⟩ ⟨0, 1⟩, ⟨.text "x", false⟩, rfl⟩
    let cells := (∅ : Cells).insert ⟨0, 1⟩ (.text "z")
    let action := Action.ofOperation op (op.changesOn cells) ⟨⟨0⟩, 0⟩
    let h := undoneOf op cells
    let s := Store.ofCells ((∅ : Cells).insert ⟨0, 0⟩ (.text "y"))
    h.Reachable ∧ h.undone = [action] ∧ s.Healthy ∧ (h.redo s).1.isOk = true ∧
      -- A recorded cell does not come to its recorded value, and one without a record is altered.
      (action.changes.get? ⟨0, 0⟩).map (·.after) = some (some (.text "x")) ∧
      (h.redo s).2.2.cells.get? ⟨0, 0⟩ = some (.text "y") ∧
      action.changes.get? ⟨0, 1⟩ = none ∧ s.cells.get? ⟨0, 1⟩ = none ∧
      (h.redo s).2.2.cells.get? ⟨0, 1⟩ = some (.text "x") ∧
      ¬ action.changes.Drives .redo s.cells (h.redo s).2.2.cells := by
  intro op cells action h s
  have absent : action.changes.get? ⟨0, 1⟩ = none := by decide +kernel
  have filled : (h.redo s).2.2.cells.get? ⟨0, 1⟩ = some (.text "x") := by decide +kernel
  refine ⟨undoneOf_reachable _ _, by decide +kernel, rfl, by decide +kernel, by decide +kernel,
    by decide +kernel, absent, rfl, filled, fun drives => ?_⟩
  have passed := drives.elsewhere ⟨0, 1⟩ (SortedMap.get?_eq_none_iff.1 absent)
  rw [filled] at passed
  exact absurd passed (by decide +kernel)

end History

end CellLedger
