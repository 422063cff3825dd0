import CellLedger.Proofs.Change.Difference

/-!
An operation attempted again and again (`attempts_idempotent`). Whatever is refused, an attempt
leaves each selected cell done or as it was; and an operation wants nothing more of a cell that is
done. So the first attempt that completes leaves what one execution without faults leaves, and
nothing changes after it.
-/

set_option autoImplicit false

namespace CellLedger.Operation

variable {op : Operation} {a : Address} {current wanted : Option Value} {first middle last : Cells}

theorem plan_of_plan (planned : op.plan a current = some wanted) :
    op.plan a wanted = none ∨ op.plan a wanted = some wanted := by
  cases op with
  | setValue set =>
    by_cases passed : (wanted.isSome && !set.options.overwrite) = true
    · simp [plan, passed]
    · simp only [plan, Option.ite_none_left_eq_some] at planned
      simp [plan, passed, planned.2]
  | clear selection =>
    simp only [plan, Option.ite_none_right_eq_some, Option.some.injEq] at planned
    simp [plan, ← planned.2]
  | replay changes direction => exact .inr planned

theorem target_target (op : Operation) (a : Address) (current : Option Value) :
    op.target a (op.target a current) = op.target a current := by
  cases goal : op.goal? a current with
  | none => simp [target, goal]
  | some wanted =>
    -- The cell holds what was wanted, so that nothing is left to write.
    have settled : op.goal? a wanted = none := by
      rcases plan_of_plan (goal?_eq_some goal).1 with passed | again
      · simp [goal?, passed]
      · simp [goal?, again, Value.sameContents_refl]
    simp [target, goal, settled]

/-- Some of the selected cells are done and the others untouched, as are all other cells. -/
structure Interrupted (op : Operation) (before after : Cells) : Prop where
  selected : ∀ a ∈ op.selection.cells,
    after.get? a = before.get? a ∨ after.get? a = (op.apply before).get? a
  elsewhere : ∀ a, a ∉ op.selection.cells → after.get? a = before.get? a

theorem Interrupted.refl (op : Operation) (cells : Cells) : op.Interrupted cells cells :=
  ⟨fun _ _ => .inl rfl, fun _ _ => rfl⟩

theorem Advanced.interrupted {visited : List Address} (advanced : op.Advanced visited first last)
    (within : ∀ a ∈ visited, a ∈ op.selection.cells) : op.Interrupted first last := by
  constructor
  · intro a member
    by_cases done : a ∈ visited
    · simp [advanced a, done, get?_apply_of_mem member]
    · simp [advanced a, done]
  · intro a outside
    have untouched : a ∉ visited := fun done => outside (within a done)
    simp [advanced a, untouched]

theorem Interrupted.apply_eq (interrupted : op.Interrupted first last) :
    op.apply last = op.apply first := by
  refine SortedMap.ext_get? fun a => ?_
  by_cases member : a ∈ op.selection.cells
  · rw [get?_apply_of_mem member, get?_apply_of_mem member]
    rcases interrupted.selected a member with untouched | done
    · rw [untouched]
    · rw [done, get?_apply_of_mem member, target_target]
  · rw [get?_apply_of_not_mem member, get?_apply_of_not_mem member,
      interrupted.elsewhere a member]

theorem Interrupted.trans (earlier : op.Interrupted first middle)
    (later : op.Interrupted middle last) : op.Interrupted first last := by
  constructor
  · intro a member
    have done := later.selected a member
    rw [earlier.apply_eq] at done
    rcases done with untouched | done
    · rw [untouched]
      exact earlier.selected a member
    · exact .inr done
  · intro a outside
    rw [later.elsewhere a outside, earlier.elsewhere a outside]

theorem apply_interrupted (op : Operation) (cells : Cells) : op.Interrupted cells (op.apply cells) :=
  ⟨fun _ _ => .inr rfl, fun _ outside => get?_apply_of_not_mem outside cells⟩

theorem apply_apply (op : Operation) (cells : Cells) :
    op.apply (op.apply cells) = op.apply cells :=
  (op.apply_interrupted cells).apply_eq

theorem execute_interrupted (op : Operation) (s : Store) :
    op.Interrupted s.cells (op.execute s).2.cells := by
  rcases op.execute_cases s with
    ⟨_, t, visited, a, rest, run, split, advanced, _⟩ | ⟨t, run, cells, _⟩
  · have within : ∀ b ∈ visited, b ∈ op.selection.cells := by
      intro b member
      simp [split, member]
    rw [run]
    exact advanced.interrupted within
  · rw [run, cells]
    exact op.apply_interrupted s.cells

/-- Every attempt runs under a plan of faults of its own, on what the one before it left. -/
def attempts (op : Operation) :
    List FaultPlan → Store → List (Except StoreError OperationResult × Store)
  | [], _ => []
  | plan :: later, s =>
    let attempt := op.execute { s with faults := plan }
    attempt :: op.attempts later attempt.2

/-- The attempt left these contents as they were, and reports no change if it completed. -/
structure Idle (cells : Cells) (attempt : Except StoreError OperationResult × Store) : Prop where
  unaltered : attempt.2.cells = cells
  reported : ∀ r, attempt.1 = .ok r → r.cellsModified = 0 ∧ r.changes = ∅

-- Nothing is left to do, whether or not an access is refused.
theorem execute_of_settled (s : Store) (settled : op.apply s.cells = s.cells) :
    Idle s.cells (op.execute s) := by
  have unaltered : op.changesOn s.cells = ∅ := by
    refine SortedMap.ext_get? fun a => SortedMap.get?_eq_none_iff.2 fun recorded => ?_
    have altered := ((changesOn_between op s.cells).altered a).1 recorded
    rw [settled] at altered
    simp [Value.sameContents_refl] at altered
  constructor
  · have interrupted := op.execute_interrupted s
    refine SortedMap.ext_get? fun a => ?_
    by_cases member : a ∈ op.selection.cells
    · simpa [settled] using interrupted.selected a member
    · exact interrupted.elsewhere a member
  · intro r completed
    obtain ⟨rfl, _⟩ := execute_ok (Prod.ext completed rfl)
    exact ⟨congrArg SortedMap.size unaltered, unaltered⟩

theorem attempts_settled (plans : List FaultPlan) {s : Store}
    (settled : op.apply s.cells = s.cells) :
    ∀ x ∈ op.attempts plans s, Idle s.cells x := by
  induction plans generalizing s with
  | nil => simp [attempts]
  | cons plan later ih =>
    have idle := execute_of_settled { s with faults := plan } settled
    rintro x listed
    rcases List.mem_cons.1 listed with rfl | after
    · exact idle
    · have again := ih (by rw [idle.unaltered, settled]) x after
      rwa [idle.unaltered] at again

theorem attempts_idempotent (op : Operation) (s : Store) (plans : List FaultPlan)
    (completes : ∃ x ∈ op.attempts plans s, x.1.isOk = true) :
    ∃ failed result t further, op.attempts plans s = failed ++ (.ok result, t) :: further ∧
      (∀ x ∈ failed, x.1.isOk = false) ∧
      t.cells = (op.execute s.heal).2.cells ∧ ∀ x ∈ further, Idle t.cells x := by
  -- A failed attempt leaves the rest to do, which comes to the same as doing all.
  rw [cells_execute_heal]
  induction plans generalizing s with
  | nil => simp [attempts] at completes
  | cons plan later ih =>
    have interrupted := op.execute_interrupted { s with faults := plan }
    simp only [attempts] at completes ⊢
    generalize run : op.execute { s with faults := plan } = outcome at completes interrupted ⊢
    obtain ⟨reply, t⟩ := outcome
    cases reply with
    | error e =>
      have completesLater : ∃ x ∈ op.attempts later t, x.1.isOk = true := by
        simpa [Except.isOk, Except.toBool] using completes
      obtain ⟨failed, result, u, further, split, failures, cells, idle⟩ := ih t completesLater
      refine ⟨(.error e, t) :: failed, result, u, further, by rw [split]; rfl, ?_, ?_, idle⟩
      · rintro x listed
        rcases List.mem_cons.1 listed with rfl | earlier
        · rfl
        · exact failures x earlier
      · rw [cells, interrupted.apply_eq]
    | ok result =>
      obtain ⟨_, done⟩ := execute_ok run
      have settled : op.apply t.cells = t.cells := by rw [done, apply_apply]
      refine ⟨[], result, t, op.attempts later t, rfl, by simp, done, ?_⟩
      exact attempts_settled later settled

theorem attempts_idempotent_overwrite_off :
    let op : Operation := .setValue
      { selection := .range ⟨0, 0⟩ ⟨0, 2⟩, options := ⟨.text "x", false⟩, writable := rfl }
    let plans : List FaultPlan :=
      [{ writes := [2] }, { allReads := true }, { writesFrom := some 5 }, {}, { reads := [11] }]
    let s : Store := {}
    let run := op.attempts plans s
    -- The first two fail, the third completes, and so does the next; the last one fails.
    run.map (·.1.isOk) = [false, false, true, true, false] ∧
      run.map (·.2.cells.keys.length) = [1, 1, 3, 3, 3] ∧
      ∃ failed result t further, run = failed ++ (.ok result, t) :: further ∧
        (∀ x ∈ failed, x.1.isOk = false) ∧ t.cells = (op.execute s.heal).2.cells ∧
        ∀ x ∈ further, Idle t.cells x := by
  intro op plans s run
  have replies : run.map (·.1.isOk) = [false, false, true, true, false] := by decide +kernel
  have contents : run.map (·.2.cells.keys.length) = [1, 1, 3, 3, 3] := by decide +kernel
  have completes : ∃ x ∈ run, x.1.isOk = true := by
    have listed : true ∈ run.map (·.1.isOk) := by simp [replies]
    exact List.mem_map.1 listed
  exact ⟨replies, contents, attempts_idempotent op s plans completes⟩

end CellLedger.Operation
