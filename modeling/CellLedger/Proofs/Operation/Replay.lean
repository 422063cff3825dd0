import CellLedger.Proofs.Change.Alike
import CellLedger.Proofs.History.Effect

/-!
An operation derived from change records and a plain replay of them (`derive_agrees`): whichever way
the derivation takes, both alter the same cells and leave equal contents.
-/

set_option autoImplicit false

namespace CellLedger

variable {changes : ChangeSet} {direction : Direction} {before after other : Cells}

theorem ChangeSet.Drives.same (drives : changes.Drives direction before after)
    (drivesToo : changes.Drives direction before other) : after.Same other := by
  intro a
  cases found : changes.get? a with
  | some c =>
    have recorded := drivesToo.recorded a c found
    exact Value.sameContents_trans (drives.recorded a c found) (Value.sameContents_symm recorded)
  | none =>
    have absent := SortedMap.get?_eq_none_iff.1 found
    rw [drives.elsewhere a absent, drivesToo.elsewhere a absent]
    exact Value.sameContents_refl _

namespace Operation

theorem replay_drives (changes : ChangeSet) (direction : Direction) (before : Cells) :
    changes.Drives direction before ((replay changes direction).apply before) := by
  constructor
  · intro a c found
    have selected : a ∈ (replay changes direction).selection.cells :=
      SortedMap.mem_keys_iff.2 ⟨c, found⟩
    rw [get?_apply_of_mem selected]
    exact target_of_plan (by simp [plan, found])
  · intro a absent
    have outside : a ∉ (replay changes direction).selection.cells := absent
    rw [get?_apply_of_not_mem outside]

-- What an execution records is what it altered, so that equal effects leave equal records' keys.
theorem keys_changesOn_eq {op p : Operation} {cells : Cells}
    (same : (op.apply cells).Same (p.apply cells)) :
    (op.changesOn cells).keys = (p.changesOn cells).keys :=
  (changesOn_alike (.refl cells) same).keys

theorem derive_agrees (changes : ChangeSet) (direction : Direction) (s : Store) :
    let derived := (derive changes direction).execute s
    let replayed := (replay changes direction).execute s
    s.Unhindered derived.2 → s.Unhindered replayed.2 →
      ∃ result result', derived.1 = .ok result ∧ replayed.1 = .ok result' ∧
        result.changes.keys = result'.changes.keys ∧
        result.cellsModified = result'.cellsModified ∧
        derived.2.cells.Same replayed.2.cells ∧
        changes.Drives direction s.cells derived.2.cells ∧
        changes.Drives direction s.cells replayed.2.cells := by
  intro derived replayed clear clearToo
  obtain ⟨t, run, cells⟩ := execute_of_unhindered clear
  obtain ⟨u, runToo, cellsToo⟩ := execute_of_unhindered clearToo
  have drives := derive_drives changes direction s.cells
  have drivesToo := replay_drives changes direction s.cells
  have same := drives.same drivesToo
  have keys := keys_changesOn_eq same
  refine ⟨_, _, congrArg Prod.fst run, congrArg Prod.fst runToo, keys, ?_, ?_⟩
  · -- As many cells are reported as there are records.
    change ((derive changes direction).changesOn s.cells).size = _
    rw [SortedMap.size_eq_length_keys, keys, ← SortedMap.size_eq_length_keys]
    rfl
  · have after : derived.2.cells = _ := (congrArg (·.2.cells) run).trans cells
    have afterToo : replayed.2.cells = _ := (congrArg (·.2.cells) runToo).trans cellsToo
    rw [after, afterToo]
    exact ⟨same, drives, drivesToo⟩

-- The two zeros are equal values: they are written as one value, and one of the cells, which holds
-- the other zero already, is left alone. Its record stands under a key that is not its address.
theorem derive_agrees_zeros :
    let zero (negative : Bool) : Option Value := some (.number (.ofMagnitude negative 0))
    let changes : ChangeSet := .ofList [(⟨0, 0⟩, .record ⟨7, 7⟩ (zero false) none),
      (⟨0, 1⟩, .record ⟨0, 1⟩ (zero true) none)]
    let s := Store.ofCells ((∅ : Cells).assign ⟨0, 0⟩ (zero true))
    let derived := (derive changes .undo).execute s
    let replayed := (replay changes .undo).execute s
    s.Unhindered derived.2 ∧ s.Unhindered replayed.2 ∧ (derive changes .undo).isReplay = false ∧
      ∃ result result', derived.1 = .ok result ∧ replayed.1 = .ok result' ∧
        result.changes.keys = [⟨0, 1⟩] ∧ result.changes.keys = result'.changes.keys ∧
        derived.2.cells.Same replayed.2.cells ∧ derived.2.cells ≠ replayed.2.cells := by
  intro zero changes s derived replayed
  have clear (op : Operation) : s.Unhindered (op.execute s).2 :=
    (op.execute_touches s).unhindered rfl
  obtain ⟨result, result', run, runToo, keys, _, same, _⟩ :=
    derive_agrees changes .undo s (clear _) (clear _)
  have altered : derived.1.toOption.map (·.changes.keys) = some [⟨0, 1⟩] := by decide +kernel
  rw [run] at altered
  exact ⟨clear _, clear _, by decide +kernel, result, result', run, runToo,
    Option.some.inj altered, keys, same, by decide +kernel⟩

end Operation

end CellLedger
