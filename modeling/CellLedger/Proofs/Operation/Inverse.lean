import CellLedger.Operation.Inverse
import CellLedger.Proofs.Change.Difference

/-!
Operations on contents that are equal up to equality of values, and operations derived from change
records. Records with a uniform side are written back as one value (`derive_of_uniform`), all
others each as its own (`derive_of_not_uniform`). Undoing the records that lead from one contents to
another leads back (`apply_deriveUndo`), and redoing them leads forth again (`apply_deriveRedo`).
-/

set_option autoImplicit false

namespace CellLedger

theorem Value.sameContents_ite (a b : Option Value) :
    sameContents (if sameContents a b then a else b) b = true := by
  split
  next same => exact same
  · exact sameContents_refl b

namespace ChangeSet

variable {changes : ChangeSet} {direction : Direction}

theorem mem_sides {v : Option Value} :
    v ∈ changes.values.map (·.side direction) ↔
      ∃ a c, changes.get? a = some c ∧ c.side direction = v := by
  simp only [SortedMap.values, SortedMap.get?_eq_some_iff, List.map_map, List.mem_map]
  constructor
  · rintro ⟨⟨a, c⟩, member, side⟩
    exact ⟨a, c, member, side⟩
  · rintro ⟨a, c, member, side⟩
    exact ⟨(a, c), member, side⟩

/-- All records have a side equal to that of the first, which may be written. -/
structure Uniform (changes : ChangeSet) (direction : Direction) (first : Option Value) : Prop where
  head : (changes.values.map (·.side direction)).head? = some first
  alike : ∀ a c, changes.get? a = some c → Value.sameContents (c.side direction) first = true
  writable : ∀ value, first = some value → value.isBlankFormula = false

end ChangeSet

namespace Operation

variable {a : Address} {current other : Option Value} {changes : ChangeSet} {before after : Cells}

theorem plan_congr (op : Operation) (same : Value.sameContents current other = true) :
    op.plan a current = op.plan a other := by
  have held : current.isSome = other.isSome := by
    cases current <;> cases other <;> simp_all [Value.sameContents]
  cases op <;> simp [plan, held]

theorem goal?_congr (op : Operation) (same : Value.sameContents current other = true) :
    op.goal? a current = op.goal? a other := by
  rw [goal?, goal?, op.plan_congr same]
  congr 1
  funext wanted
  rw [Value.sameContents_congr (Value.sameContents_refl wanted) same]

theorem outcome_congr (op : Operation) (same : Value.sameContents current other = true) :
    Value.sameContents (op.outcome a current) (op.outcome a other) = true := by
  by_cases member : a ∈ op.selection.cells
  · rw [outcome_of_mem member, outcome_of_mem member, target, target, op.goal?_congr same]
    cases op.goal? a other with
    | none => exact same
    | some wanted => exact Value.sameContents_refl wanted
  · rw [outcome_of_not_mem member, outcome_of_not_mem member]
    exact same

theorem apply_congr (op : Operation) {s t : Cells} (same : s.Same t) :
    (op.apply s).Same (op.apply t) := by
  intro a
  rw [get?_apply, get?_apply]
  exact op.outcome_congr (same a)

theorem target_eq_of_plan {op : Operation} {wanted : Option Value}
    (planned : op.plan a current = some wanted) :
    op.target a current = if Value.sameContents current wanted then current else wanted := by
  -- Nothing is written into a cell that holds an equal value already.
  rw [target, goal?, planned, Option.filter_some, Value.sameContents_comm]
  cases Value.sameContents current wanted <;> rfl

theorem target_of_plan {op : Operation} {wanted : Option Value}
    (planned : op.plan a current = some wanted) :
    Value.sameContents (op.target a current) wanted = true := by
  rw [target_eq_of_plan planned]
  exact Value.sameContents_ite current wanted

theorem target_clear (selection : Selection) :
    (Operation.clear selection).target a current = none := by
  cases current with
  | none => rfl
  | some value => rfl

theorem derive_of_uniform {direction : Direction} {first : Option Value}
    (uniform : changes.Uniform direction first) :
    (first = none ∧ derive changes direction = .clear (.ofKeys changes)) ∨
      ∃ value writable, first = some value ∧
        derive changes direction = .setValue ⟨.ofKeys changes, ⟨value, true⟩, writable⟩ := by
  obtain ⟨rest, sides⟩ := List.head?_eq_some_iff.1 uniform.head
  have alike : rest.all (Value.sameContents · first) = true := by
    refine List.all_eq_true.2 fun v member => ?_
    have listed : v ∈ changes.values.map (·.side direction) :=
      sides ▸ List.mem_cons_of_mem first member
    obtain ⟨b, d, found, side⟩ := ChangeSet.mem_sides.1 listed
    exact side ▸ uniform.alike b d found
  simp only [derive, sides, alike, if_true]
  cases first with
  | none => exact .inl ⟨rfl, rfl⟩
  | some value =>
    have writable := uniform.writable value rfl
    exact .inr ⟨value, writable, rfl, by simp only [writable, dite_true]⟩

theorem target_derive_of_uniform {direction : Direction} {first : Option Value}
    (uniform : changes.Uniform direction first) :
    (derive changes direction).target a current =
      if Value.sameContents current first then current else first := by
  rcases derive_of_uniform uniform with ⟨rfl, clears⟩ | ⟨value, writable, rfl, sets⟩
  · rw [clears, target_clear]
    cases current <;> rfl
  · rw [sets]
    exact target_eq_of_plan (by simp [plan])

theorem derive_of_not_uniform {direction : Direction}
    (mixed : ∀ first, ¬ changes.Uniform direction first) :
    derive changes direction = .replay changes direction := by
  unfold derive
  split
  · rfl
  next first rest sides =>
  split
  next alike =>
    have each : ∀ b d, changes.get? b = some d →
        Value.sameContents (d.side direction) first = true := by
      intro b d found
      have listed : d.side direction ∈ changes.values.map (·.side direction) :=
        ChangeSet.mem_sides.2 ⟨b, d, found, rfl⟩
      rw [sides] at listed
      rcases List.mem_cons.1 listed with same | later
      · rw [same]
        exact Value.sameContents_refl first
      · exact List.all_eq_true.1 alike _ later
    have head : (changes.values.map (·.side direction)).head? = some first := by
      rw [sides, List.head?_cons]
    split
    · exact absurd ⟨head, each, by simp⟩ (mixed none)
    next value =>
      split
      next writable =>
        have held : ∀ v, some value = some v → v.isBlankFormula = false := by
          rintro v ⟨⟩
          exact writable
        exact absurd ⟨head, each, held⟩ (mixed (some value))
      · rfl
  · rfl

-- A replay aims at the side itself; a write or a clear at a side that equals all of them.
theorem target_derive {direction : Direction} {c : Change} (found : changes.get? a = some c) :
    Value.sameContents ((derive changes direction).target a current) (c.side direction) = true := by
  by_cases uniform : ∃ first, changes.Uniform direction first
  · obtain ⟨first, uniform⟩ := uniform
    rw [target_derive_of_uniform uniform]
    exact Value.sameContents_trans (Value.sameContents_ite current first)
      (Value.sameContents_symm (uniform.alike a c found))
  · rw [derive_of_not_uniform (not_exists.1 uniform)]
    exact target_of_plan (by simp [plan, found])

theorem apply_derive_recorded {direction : Direction} {s : Cells} (recorded : a ∈ changes.keys) :
    ((derive changes direction).apply s).get? a =
      (derive changes direction).target a (s.get? a) := by
  have member : a ∈ (derive changes direction).selection.cells := by
    rw [selection_derive]
    exact recorded
  rw [get?_apply_of_mem member]

theorem apply_derive_unrecorded {direction : Direction} {s : Cells} (absent : a ∉ changes.keys) :
    ((derive changes direction).apply s).get? a = s.get? a := by
  have outside : a ∉ (derive changes direction).selection.cells := by
    rw [selection_derive]
    exact absent
  rw [get?_apply_of_not_mem outside]

theorem apply_derive {direction : Direction} {s goal : Cells}
    (recorded : ∀ a c, changes.get? a = some c → c.side direction = goal.get? a)
    (elsewhere : ∀ a, a ∉ changes.keys → Value.sameContents (s.get? a) (goal.get? a) = true) :
    ((derive changes direction).apply s).Same goal := by
  intro a
  by_cases member : a ∈ changes.keys
  · obtain ⟨c, found⟩ := SortedMap.mem_keys_iff.1 member
    rw [apply_derive_recorded member, ← recorded a c found]
    exact target_derive found
  · rw [apply_derive_unrecorded member]
    exact elsewhere a member

theorem apply_deriveUndo (between : changes.Between before after) {s : Cells}
    (same : s.Same after) : ((deriveUndo changes).apply s).Same before := by
  refine apply_derive (fun a c found => (between.faithful a c found).2.1) fun a absent => ?_
  rw [← between.unaltered a absent]
  exact same a

theorem apply_deriveRedo (between : changes.Between before after) {s : Cells}
    (same : s.Same before) : ((deriveRedo changes).apply s).Same after := by
  refine apply_derive (fun a c found => (between.faithful a c found).2.2) fun a absent => ?_
  rw [between.unaltered a absent]
  exact same a

theorem cellsModified_report (op : Operation) (cells : Cells) :
    (op.report cells).cellsModified = cells.distance (op.apply cells) :=
  (op.changesOn_between cells).size_eq_distance

end Operation

end CellLedger
