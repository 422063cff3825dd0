import CellLedger.Proofs.Operation.Inverse

/-!
What an undo leaves to be seen. Every cell is rendered as it was before the operation, unless the
cells that were altered held zeros only, of both signs: equal values are written back as one, and
all of them come to hold the zero of the first (`undo_renders`).
-/

set_option autoImplicit false

namespace CellLedger

namespace Number

theorem eq_ofMagnitude_of_isZero {x : Number} (zero : x.isZero = true) :
    x = ofMagnitude x.negative 0 := by
  have magnitude : x.bits.toNat % signBit = 0 := of_decide_eq_true zero
  have bound := x.bits.toNat_lt
  obtain ⟨bits⟩ := x
  simp only [negative, ofMagnitude, mk.injEq, ← UInt64.toNat_inj]
  simp only [signBit] at *
  -- Of the multiples of the sign bit only none and one fit the format.
  by_cases signed : 0x8000000000000000 ≤ bits.toNat
  · simp only [signed, decide_true, if_true]
    rw [UInt64.toNat_ofNat_of_lt' (by decide)]
    omega
  · simp only [signed, decide_false, Bool.false_eq_true, if_false]
    rw [UInt64.toNat_ofNat_of_lt' (by decide)]
    omega

end Number

namespace Value

def zero (negative : Bool) : Value := .number (.ofMagnitude negative 0)

theorem eq_zero_of_same {a : Option Value} {negative : Bool}
    (same : sameContents a (some (zero negative)) = true) : ∃ sign, a = some (zero sign) := by
  rcases a with _ | _ | x | _ | _ <;> simp only [sameContents, Value.same, zero] at same
  all_goals try simp at same
  have isZero : (Number.ofMagnitude negative 0).isZero = true := by cases negative <;> decide
  simp only [Number.same, Bool.or_eq_true, Bool.and_eq_true, decide_eq_true_eq] at same
  rcases same with (rfl | nan) | zeros
  · exact ⟨negative, rfl⟩
  · simp [Number.isZero_eq_false_of_isNaN nan.2] at isZero
  · exact ⟨x.negative, congrArg (some ∘ Value.number) (Number.eq_ofMagnitude_of_isZero zeros.1)⟩

theorem none_iff_of_same {a b : Option Value} (same : sameContents a b = true) :
    a = none ↔ b = none := by
  cases a <;> cases b <;> simp_all [sameContents]

-- Equal values are rendered alike but for the zeros, whose sign is shown.
theorem display_of_same {a b : Option Value} (same : sameContents a b = true) :
    a.map display = b.map display ∨
      ∃ negative, a = some (zero negative) ∧ b = some (zero !negative) := by
  rcases a with _ | a <;> rcases b with _ | b <;> simp only [sameContents] at same
  · exact .inl rfl
  · simp at same
  · simp at same
  cases a with
  | number x =>
    cases b with
    | number y =>
      have equal : x.same y = true := same
      simp only [Number.same, Bool.or_eq_true, Bool.and_eq_true, decide_eq_true_eq] at equal
      rcases equal with (rfl | nan) | zeros
      · exact .inl rfl
      · exact .inl (by simp [display, Number.text, nan.1, nan.2])
      · rw [Number.eq_ofMagnitude_of_isZero zeros.1, Number.eq_ofMagnitude_of_isZero zeros.2]
        generalize x.negative = sign
        generalize y.negative = other
        by_cases signs : sign = other
        · exact .inl (by rw [signs])
        · refine .inr ⟨sign, rfl, ?_⟩
          rw [Bool.eq_not_of_ne (Ne.symm signs)]
          rfl
    | _ => simp [Value.same] at same
  | _ => exact .inl (by rw [of_decide_eq_true same])

end Value

namespace ChangeSet

variable {changes : ChangeSet} {direction : Direction} {first : Option Value}

/-- Every recorded cell held a zero, and zeros of both signs are recorded. -/
structure MixesZeros (changes : ChangeSet) : Prop where
  zeros : ∀ a c, changes.get? a = some c → ∃ negative, c.before = some (.zero negative)
  both : ∀ negative, ∃ a c, changes.get? a = some c ∧ c.before = some (.zero negative)

theorem MixesZeros.uniform (mixes : changes.MixesZeros) {c : Change}
    (head : changes.values.head? = some c) : changes.Uniform .undo c.before := by
  have headSide : (changes.values.map (·.side .undo)).head? = some c.before := by
    rw [List.head?_map, head]
    rfl
  obtain ⟨a, d, found, side⟩ := mem_sides.1 (List.mem_of_head? headSide)
  obtain ⟨sign, zero⟩ := mixes.zeros a d found
  have first : c.before = some (.zero sign) := side.symm.trans zero
  refine ⟨headSide, fun b e recorded => ?_, fun value held => ?_⟩
  · obtain ⟨other, zeroToo⟩ := mixes.zeros b e recorded
    rw [first, Change.side, zeroToo]
    cases other <;> cases sign <;> decide
  · obtain rfl : Value.zero sign = value := Option.some.inj (first.symm.trans held)
    rfl

theorem Uniform.mixesZeros {c : Change} {a : Address} {negative : Bool}
    (uniform : changes.Uniform .undo (some (.zero !negative))) (found : changes.get? a = some c)
    (held : c.before = some (.zero negative)) : changes.MixesZeros where
  zeros b d recorded := Value.eq_zero_of_same (uniform.alike b d recorded)
  both sign := by
    by_cases same : sign = negative
    · exact ⟨a, c, found, same ▸ held⟩
    · rw [Bool.eq_not_of_ne same]
      exact mem_sides.1 (List.mem_of_head? uniform.head)

end ChangeSet

namespace Operation

variable {a : Address} {current : Option Value} {changes : ChangeSet} {direction : Direction}
  {c : Change}

theorem target_of_uniform {first : Option Value} (uniform : changes.Uniform direction first)
    (found : changes.get? a = some c)
    (different : Value.sameContents current (c.side direction) = false) :
    (derive changes direction).target a current = first := by
  have same := Value.sameContents_congr (Value.sameContents_refl current)
    (uniform.alike a c found)
  rw [target_derive_of_uniform uniform, ← same, different]
  rfl

-- A recorded cell gets back what it held, or what the first of the altered cells held.
theorem target_derive_cases (found : changes.get? a = some c)
    (different : Value.sameContents current (c.side direction) = false) :
    (derive changes direction).target a current = c.side direction ∨
      ∃ first, changes.Uniform direction first ∧
        (derive changes direction).target a current = first := by
  by_cases uniform : ∃ first, changes.Uniform direction first
  · obtain ⟨first, uniform⟩ := uniform
    exact .inr ⟨first, uniform, target_of_uniform uniform found different⟩
  · have planned : (replay changes direction).plan a current = some (c.side direction) := by
      simp [plan, found]
    rw [derive_of_not_uniform (not_exists.1 uniform), target_eq_of_plan planned, different]
    exact .inl rfl

section Undone

variable {before after : Cells} (between : changes.Between before after)

include between

theorem undo_of_unrecorded (absent : a ∉ changes.keys) :
    ((deriveUndo changes).apply after).get? a = before.get? a := by
  rw [deriveUndo, apply_derive_unrecorded absent, between.unaltered a absent]

-- A recorded cell holds something else by then, so that the undo does write it.
theorem undo_of_recorded (found : changes.get? a = some c) :
    c.before = before.get? a ∧ Value.sameContents (after.get? a) (c.side .undo) = false ∧
      ((deriveUndo changes).apply after).get? a =
        (deriveUndo changes).target a (after.get? a) := by
  have member : a ∈ changes.keys := SortedMap.mem_keys_iff.2 ⟨c, found⟩
  have held := (between.faithful a c found).2.1
  refine ⟨held, ?_, apply_derive_recorded member⟩
  rw [Change.side, held, Value.sameContents_comm]
  exact (between.altered a).1 member

theorem undo_display (unmixed : ¬ changes.MixesZeros) (a : Address) :
    (((deriveUndo changes).apply after).get? a).map Value.display =
      (before.get? a).map Value.display := by
  cases found : changes.get? a with
  | none => rw [undo_of_unrecorded between (SortedMap.get?_eq_none_iff.1 found)]
  | some c =>
    obtain ⟨held, different, written⟩ := undo_of_recorded between found
    rw [written, ← held]
    rcases target_derive_cases found different with back | ⟨first, uniform, back⟩
    · exact congrArg (Option.map Value.display) back
    · rw [deriveUndo, back]
      rcases Value.display_of_same (uniform.alike a c found) with same | ⟨sign, zero, rfl⟩
      · exact same.symm
      · exact absurd (uniform.mixesZeros found zero) unmixed

theorem undo_of_mixesZeros (mixes : changes.MixesZeros) (member : a ∈ changes.keys)
    (head : changes.values.head? = some c) :
    ((deriveUndo changes).apply after).get? a = c.before := by
  obtain ⟨d, found⟩ := SortedMap.mem_keys_iff.1 member
  obtain ⟨_, different, written⟩ := undo_of_recorded between found
  rw [written]
  exact target_of_uniform (mixes.uniform head) found different

end Undone

theorem undo_renders (op : Operation) (s : Store) :
    let done := op.execute s
    s.Unhindered done.2 → ∃ result, done.1 = .ok result ∧
      let undone := (deriveUndo result.changes).execute done.2
      done.2.Unhindered undone.2 → ∃ back, undone.1 = .ok back ∧
        (∀ a, undone.2.cells.get? a = none ↔ s.cells.get? a = none) ∧
        (∀ a, a ∉ result.changes.keys → undone.2.cells.get? a = s.cells.get? a) ∧
        (¬ result.changes.MixesZeros → ∀ a,
          (undone.2.cells.get? a).map Value.display = (s.cells.get? a).map Value.display) ∧
        (result.changes.MixesZeros → ∀ a ∈ result.changes.keys,
          ∀ c, result.changes.values.head? = some c → undone.2.cells.get? a = c.before) := by
  intro done clear
  obtain ⟨t, run, cells⟩ := execute_of_unhindered clear
  refine ⟨op.report s.cells, congrArg Prod.fst run, ?_⟩
  intro undone clearUndo
  obtain ⟨u, runUndo, cellsUndo⟩ := execute_of_unhindered clearUndo
  have between : (op.changesOn s.cells).Between s.cells done.2.cells := by
    rw [show done.2.cells = op.apply s.cells from (congrArg (·.2.cells) run).trans cells]
    exact op.changesOn_between s.cells
  have after : undone.2.cells = (deriveUndo (op.changesOn s.cells)).apply done.2.cells :=
    (congrArg (·.2.cells) runUndo).trans cellsUndo
  rw [after]
  refine ⟨_, congrArg Prod.fst runUndo, fun a => ?_, fun a => undo_of_unrecorded between,
    undo_display between, fun mixes a member c => undo_of_mixesZeros between mixes member⟩
  have same := apply_deriveUndo between (.refl _) a
  exact Value.none_iff_of_same same

-- A text stands among the cells that held the two zeros, so that each gets back its own.
theorem undo_renders_mixture :
    let op : Operation := .overwriteText (.range ⟨0, 0⟩ ⟨0, 3⟩) "x"
    let s := Store.ofCells (.ofList
      [(⟨0, 0⟩, .zero true), (⟨0, 1⟩, .zero false), (⟨0, 2⟩, .text "a")])
    let done := op.execute s
    s.Unhindered done.2 ∧ ∃ result, done.1 = .ok result ∧ ¬ result.changes.MixesZeros ∧
      let undone := (deriveUndo result.changes).execute done.2
      done.2.Unhindered undone.2 ∧ ∃ back, undone.1 = .ok back ∧
        undone.2.cells.get? ⟨0, 3⟩ = none ∧
        ∀ a, (undone.2.cells.get? a).map Value.display = (s.cells.get? a).map Value.display := by
  intro op s done
  have plan : s.Healthy := rfl
  have clear : s.Unhindered done.2 := (op.execute_touches s).unhindered plan
  have healthy : done.2.Healthy := (execute_of_healthy plan op).2.2
  obtain ⟨result, run, undo⟩ := undo_renders op s clear
  have clearUndo : done.2.Unhindered ((deriveUndo result.changes).execute done.2).2 :=
    (execute_touches _ _).unhindered healthy
  obtain ⟨back, runUndo, empty, _, renders, _⟩ := undo clearUndo
  have text : done.1.toOption.map (fun r => (r.changes.get? ⟨0, 2⟩).map (·.before)) =
      some (some (some (.text "a"))) := by decide +kernel
  have unmixed : ¬ result.changes.MixesZeros := by
    intro mixes
    rw [run] at text
    obtain ⟨c, found, held⟩ := Option.map_eq_some_iff.1 (Option.some.inj text)
    obtain ⟨sign, zero⟩ := mixes.zeros _ c found
    cases held.symm.trans zero
  exact ⟨clear, result, run, unmixed, clearUndo, back, runUndo, (empty _).2 (by decide +kernel),
    renders unmixed⟩

-- The second cell gets back the zero of the first, which is rendered without a sign.
theorem undo_renders_other_zero :
    let op : Operation := .overwriteText (.range ⟨0, 0⟩ ⟨0, 1⟩) "x"
    let s := Store.ofCells (.ofList [(⟨0, 0⟩, .zero false), (⟨0, 1⟩, .zero true)])
    let done := op.execute s
    s.Unhindered done.2 ∧ ∃ result, done.1 = .ok result ∧ result.changes.MixesZeros ∧
      let undone := (deriveUndo result.changes).execute done.2
      done.2.Unhindered undone.2 ∧ undone.1.isOk = true ∧
        (s.cells.get? ⟨0, 1⟩).map Value.display = some "-0" ∧
        (undone.2.cells.get? ⟨0, 1⟩).map Value.display = some "0" := by
  intro op s done
  have plan : s.Healthy := rfl
  have clear : s.Unhindered done.2 := (op.execute_touches s).unhindered plan
  obtain ⟨run, _, healthy⟩ := execute_of_healthy plan op
  have mixes : (op.changesOn s.cells).MixesZeros := by
    constructor
    · intro a c found
      have listed : c ∈ (op.changesOn s.cells).values :=
        List.mem_map_of_mem (SortedMap.get?_eq_some_iff.1 found)
      have before : ∀ d ∈ (op.changesOn s.cells).values,
          d.before = some (.zero false) ∨ d.before = some (.zero true) := by decide +kernel
      rcases before c listed with zero | zero
      · exact ⟨_, zero⟩
      · exact ⟨_, zero⟩
    · intro sign
      cases sign
      · exact ⟨⟨0, 0⟩, _, rfl, by decide +kernel⟩
      · exact ⟨⟨0, 1⟩, _, rfl, by decide +kernel⟩
  exact ⟨clear, op.report s.cells, run, mixes, (execute_touches _ _).unhindered healthy,
    by decide +kernel, by decide +kernel, by decide +kernel⟩

end Operation

end CellLedger
