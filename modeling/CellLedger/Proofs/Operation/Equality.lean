import CellLedger.Proofs.Change.Alike
import CellLedger.Proofs.Operation.Inverse
import CellLedger.Proofs.Operation.Preview

/-!
Equality of values is respected by whatever operations do: on contents that are equal but not
identical the same cells are altered, the same is reported, and contents that are equal again are
left (`equality_respected`). So it is for operations derived from records that are equal in the same
sense.
-/

set_option autoImplicit false

namespace CellLedger

theorem Value.isBlankFormula_of_same {v w : Value} (same : v.same w = true) :
    v.isBlankFormula = w.isBlankFormula := by
  cases v <;> cases w <;> simp_all [Value.same, isBlankFormula]

theorem Value.isFormula_of_same {a b : Option Value} (same : sameContents a b = true) :
    a.any isFormula = b.any isFormula := by
  rcases a with _ | v <;> rcases b with _ | w
  · rfl
  · simp [sameContents] at same
  · simp [sameContents] at same
  · cases v <;> cases w <;> simp_all [sameContents, Value.same, isFormula]

/-- Records of one cell with equal values before and after. -/
structure Change.Alike (c d : Change) : Prop where
  address : c.address = d.address
  before : Value.sameContents c.before d.before = true
  after : Value.sameContents c.after d.after = true

namespace ChangeSet

variable {changes others : ChangeSet} {direction : Direction} {first : Option Value}

theorem Alike.values (alike : changes.Alike others) :
    List.Forall₂ Change.Alike changes.values others.values := by
  refine SortedMap.forall₂_values alike.keys fun a c d found foundToo => ?_
  obtain ⟨address, before, after⟩ := alike.recorded a c d found foundToo
  exact ⟨address, before, after⟩

theorem Alike.size (alike : changes.Alike others) : changes.size = others.size := by
  rw [changes.size_eq_length_keys, alike.keys, ← others.size_eq_length_keys]

/-- The same cells are recorded, each with equal values on the side of this direction. -/
structure Agree (changes others : ChangeSet) (direction : Direction) : Prop where
  keys : changes.keys = others.keys
  sides : ∀ a c d, changes.get? a = some c → others.get? a = some d →
    Value.sameContents (c.side direction) (d.side direction) = true

theorem Alike.agree (alike : changes.Alike others) (direction : Direction) :
    changes.Agree others direction where
  keys := alike.keys
  sides a c d found foundToo := by
    obtain ⟨_, before, after⟩ := alike.recorded a c d found foundToo
    cases direction with
    | undo => exact before
    | redo => exact after

theorem Agree.symm (agree : changes.Agree others direction) : others.Agree changes direction where
  keys := agree.keys.symm
  sides a c d found foundToo := Value.sameContents_symm (agree.sides a d c foundToo found)

theorem Agree.exists_get? (agree : changes.Agree others direction) {a : Address} {c : Change}
    (found : changes.get? a = some c) :
    ∃ d, others.get? a = some d ∧
      Value.sameContents (c.side direction) (d.side direction) = true := by
  have member : a ∈ others.keys := agree.keys ▸ SortedMap.mem_keys_iff.2 ⟨c, found⟩
  obtain ⟨d, foundToo⟩ := SortedMap.mem_keys_iff.1 member
  exact ⟨d, foundToo, agree.sides a c d found foundToo⟩

-- Whether all sides are equal and may be written does not depend on the values that stand for them.
theorem Agree.uniform (agree : changes.Agree others direction)
    (uniform : changes.Uniform direction first) :
    ∃ other, others.Uniform direction other ∧ Value.sameContents first other = true := by
  have sides : List.Forall₂ (fun v w => Value.sameContents v w = true)
      (changes.values.map (·.side direction)) (others.values.map (·.side direction)) := by
    rw [List.forall₂_map_left_iff, List.forall₂_map_right_iff]
    exact SortedMap.forall₂_values agree.keys agree.sides
  obtain ⟨_, split⟩ := List.head?_eq_some_iff.1 uniform.head
  rw [split, List.forall₂_cons_left_iff] at sides
  obtain ⟨other, _, same, _, splitToo⟩ := sides
  refine ⟨other, ⟨by rw [splitToo, List.head?_cons], fun a d found => ?_, fun w held => ?_⟩, same⟩
  · obtain ⟨c, foundToo, equal⟩ := agree.symm.exists_get? found
    have first := Value.sameContents_trans equal (uniform.alike a c foundToo)
    exact Value.sameContents_trans first same
  · subst held
    cases first with
    | none => simp [Value.sameContents] at same
    | some v => rw [← Value.isBlankFormula_of_same same, uniform.writable v rfl]

end ChangeSet

/-- The results tell the same but for records, which are of the same cells and have equal values. -/
structure OperationResult.Alike (r q : OperationResult) : Prop where
  changes : r.changes.Alike q.changes
  others : r = { q with changes := r.changes }

/-- The previews tell the same but for the records shown, which are of the same cells and have equal
values. -/
structure OperationPreview.Alike (p q : OperationPreview) : Prop where
  changes : List.Forall₂ Change.Alike p.changes q.changes
  others : p = { q with changes := p.changes }

namespace Operation

variable {op p : Operation} {start other : Cells} {changes others : ChangeSet}
  {direction : Direction}

/-- On equal contents both operations alter the same cells, report alike and leave equal contents,
and so do their previews. -/
structure Interchangeable (op p : Operation) : Prop where
  executed : ∀ s t : Store, s.cells.Same t.cells →
    s.Unhindered (op.execute s).2 → t.Unhindered (p.execute t).2 →
      ∃ r q, (op.execute s).1 = .ok r ∧ (p.execute t).1 = .ok q ∧ r.Alike q ∧
        (op.execute s).2.cells.Same (p.execute t).2.cells
  previewed : ∀ (s t : Store) (limit : Option Nat), s.cells.Same t.cells →
    s.Unhindered (op.preview limit s).2 → t.Unhindered (p.preview limit t).2 →
      ∃ r q, (op.preview limit s).1 = .ok r ∧ (p.preview limit t).1 = .ok q ∧ r.Alike q ∧
        (op.preview limit s).2.cells.Same (p.preview limit t).2.cells

/-- What two operations must have in common to be interchangeable. -/
structure Parallel (op p : Operation) : Prop where
  selection : op.selection = p.selection
  kind : op.kind = p.kind
  warns : ∀ skipped, op.skipWarning? skipped = p.skipWarning? skipped
  apply : ∀ start other : Cells, start.Same other → (op.apply start).Same (p.apply other)

theorem countP_formulas {records others : List Change}
    (alike : List.Forall₂ Change.Alike records others) :
    (records.countP fun c => c.after.any Value.isFormula) =
      others.countP fun c => c.after.any Value.isFormula := by
  induction alike with
  | nil => rfl
  | cons head _ ih => simp only [List.countP_cons, ih, Value.isFormula_of_same head.after]

namespace Parallel

variable (parallel : op.Parallel p) (same : start.Same other)

include parallel same

theorem changesOn_alike : (op.changesOn start).Alike (p.changesOn other) :=
  Operation.changesOn_alike same (parallel.apply start other same)

theorem report_alike : (op.report start).Alike (p.report other) where
  changes := parallel.changesOn_alike same
  others := by
    have size := (parallel.changesOn_alike same).size
    simp only [report, resultOf, parallel.selection, parallel.kind, parallel.warns, size]

theorem previewOf_alike (limit : Nat) :
    (op.previewOf (op.prospects start) limit).Alike (p.previewOf (p.prospects other) limit) := by
  have records : List.Forall₂ Change.Alike (op.prospects start) (p.prospects other) := by
    rw [← values_changesOn, ← values_changesOn]
    exact (parallel.changesOn_alike same).values
  have length := records.length_eq
  have formulas := countP_formulas records
  refine ⟨List.forall₂_take limit records, ?_⟩
  simp only [previewOf, problem?, estimate, parallel.selection, parallel.warns, length, formulas]

end Parallel

theorem Parallel.interchangeable (parallel : op.Parallel p) : op.Interchangeable p where
  executed s t same clear clearToo := by
    obtain ⟨u, run, cells⟩ := execute_of_unhindered clear
    obtain ⟨v, runToo, cellsToo⟩ := execute_of_unhindered clearToo
    rw [run, runToo]
    refine ⟨_, _, rfl, rfl, parallel.report_alike same, ?_⟩
    rw [cells, cellsToo]
    exact parallel.apply _ _ same
  previewed s t limit same clear clearToo := by
    refine ⟨_, _, preview_of_unhindered clear, preview_of_unhindered clearToo,
      parallel.previewOf_alike same _, ?_⟩
    rw [(op.preview_peeks limit s).unwritten, (p.preview_peeks limit t).unwritten]
    exact same

theorem parallel_self (op : Operation) : op.Parallel op :=
  ⟨rfl, rfl, fun _ => rfl, fun _ _ => op.apply_congr⟩

theorem kind_derive (agree : changes.Agree others direction) :
    (derive changes direction).kind = (derive others direction).kind := by
  by_cases uniform : ∃ first, changes.Uniform direction first
  · obtain ⟨first, uniform⟩ := uniform
    obtain ⟨other, uniformToo, same⟩ := agree.uniform uniform
    rcases derive_of_uniform uniform with ⟨rfl, clears⟩ | ⟨_, _, rfl, sets⟩ <;>
      rcases derive_of_uniform uniformToo with ⟨rfl, clearsToo⟩ | ⟨_, _, rfl, setsToo⟩
    · rw [clears, clearsToo]
      rfl
    · simp [Value.sameContents] at same
    · simp [Value.sameContents] at same
    · rw [sets, setsToo]
      rfl
  · have mixed (other : Option Value) : ¬ others.Uniform direction other := by
      intro uniformToo
      obtain ⟨first, uniformFirst, _⟩ := agree.symm.uniform uniformToo
      exact uniform ⟨first, uniformFirst⟩
    rw [derive_of_not_uniform (not_exists.1 uniform), derive_of_not_uniform mixed]
    cases direction <;> rfl

theorem skipWarning?_derive (changes : ChangeSet) (direction : Direction) (skipped : Nat) :
    (derive changes direction).skipWarning? skipped = none := by
  by_cases uniform : ∃ first, changes.Uniform direction first
  · obtain ⟨first, uniform⟩ := uniform
    rcases derive_of_uniform uniform with ⟨_, clears⟩ | ⟨value, writable, _, sets⟩
    · rw [clears]
      rfl
    · rw [sets]
      simp [skipWarning?]
  · rw [derive_of_not_uniform (not_exists.1 uniform)]
    rfl

theorem derive_parallel (agree : changes.Agree others direction) :
    (derive changes direction).Parallel (derive others direction) where
  selection := by
    rw [selection_derive, selection_derive]
    simp only [Selection.ofKeys, agree.keys]
  kind := kind_derive agree
  warns skipped := by rw [skipWarning?_derive, skipWarning?_derive]
  apply start other same a := by
    by_cases recorded : a ∈ changes.keys
    · obtain ⟨c, found⟩ := SortedMap.mem_keys_iff.1 recorded
      obtain ⟨d, foundToo, sides⟩ := agree.exists_get? found
      rw [apply_derive_recorded recorded, apply_derive_recorded (agree.keys ▸ recorded)]
      exact Value.sameContents_trans (Value.sameContents_trans (target_derive found) sides)
        (Value.sameContents_symm (target_derive foundToo))
    · rw [apply_derive_unrecorded recorded, apply_derive_unrecorded (agree.keys ▸ recorded)]
      exact same a

theorem equality_respected :
    (Equivalence fun v w : Value => v.same w = true) ∧
      (∀ x y : Number, x.isNaN = true → y.isNaN = true →
        (Value.number x).same (.number y) = true) ∧
      (∀ x y : Number, x.isZero = true → y.isZero = true →
        (Value.number x).same (.number y) = true) ∧
      (∀ op : Operation, op.Interchangeable op) ∧
      ∀ changes others : ChangeSet, changes.Alike others →
        (deriveUndo changes).Interchangeable (deriveUndo others) ∧
          (deriveRedo changes).Interchangeable (deriveRedo others) := by
  refine ⟨⟨Value.same_refl, Value.same_symm, Value.same_trans⟩, fun x y nan nanToo => ?_,
    fun x y zero zeroToo => ?_, fun op => op.parallel_self.interchangeable, fun changes others alike =>
    ⟨(derive_parallel (alike.agree .undo)).interchangeable,
      (derive_parallel (alike.agree .redo)).interchangeable⟩⟩
  · simp [Value.same, Number.same, nan, nanToo]
  · simp [Value.same, Number.same, zero, zeroToo]

-- The records are of texts written over zeros of either sign and over numbers that are none, of
-- different bits. Undoing them brings back what was written over, bit by bit, so that the contents
-- differ afterwards, but are equal.
theorem equality_respected_zeros :
    let op : Operation := .overwriteText (.range ⟨0, 0⟩ ⟨0, 1⟩) "x"
    let cells (negative : Bool) (payload : Nat) : Cells :=
      .ofList [(⟨0, 0⟩, .number (.ofMagnitude negative 0)),
        (⟨0, 1⟩, .number (.ofMagnitude negative (Number.infinityMagnitude + payload)))]
    let changes := op.changesOn (cells false 1)
    let others := op.changesOn (cells true 2)
    let s := Store.ofCells (op.apply (cells false 1))
    let first := (deriveUndo changes).execute s
    let second := (deriveUndo others).execute s
    changes.Alike others ∧ changes ≠ others ∧ first.2.cells ≠ second.2.cells ∧
      ∃ r q, first.1 = .ok r ∧ second.1 = .ok q ∧ r.Alike q ∧ r.changes ≠ q.changes ∧
        first.2.cells.Same second.2.cells := by
  intro op cells changes others s first second
  have same : (cells false 1).Same (cells true 2) := by
    intro a
    simp only [cells, SortedMap.ofList, SortedMap.insertAll, List.foldl_cons, List.foldl_nil,
      SortedMap.get?_insert]
    split
    · decide +kernel
    · split
      · decide +kernel
      · exact Value.sameContents_refl _
  have alike : changes.Alike others := changesOn_alike same (op.apply_congr same)
  have clear (p : Operation) : s.Unhindered (p.execute s).2 :=
    (p.execute_touches s).unhindered rfl
  obtain ⟨_, _, _, _, derived⟩ := equality_respected
  obtain ⟨r, q, run, runToo, reports, equal⟩ :=
    (derived changes others alike).1.executed s s (.refl _) (clear _) (clear _)
  have recorded : first.1.toOption.map (·.changes) ≠ second.1.toOption.map (·.changes) := by
    decide +kernel
  refine ⟨alike, by decide +kernel, by decide +kernel, r, q, run, runToo, reports, ?_, equal⟩
  intro identical
  refine recorded ?_
  rw [run, runToo]
  exact congrArg some identical

end Operation

end CellLedger
