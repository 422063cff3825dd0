import CellLedger.Proofs.Sheet.Steps
import Mathlib.Algebra.Ring.Nat

/-!
How much a tracked batch may hold. Together with the soundness of tracked batches this tells which
operation targets which cell, and that no batch outgrows the limits
(`Reachable.owned_within_limits`).
-/

set_option autoImplicit false

namespace CellLedger

/-- Targeted cells are counted once each, and no limit is passed. -/
structure Batch.Within (b : Batch) (config : SheetConfig) : Prop where
  counted : b.affectedCount = (b.operations.map (·.selection.count)).sum
  operations : b.operations.length ≤ config.maxOperations
  cells : b.affectedCount ≤ config.maxCells

theorem Batch.Within.add {b c : Batch} {config : SheetConfig} (within : b.Within config)
    {op : Operation} (accepted : b.add op config = .ok c) : c.Within config := by
  have grown := affectedCount_add accepted
  obtain ⟨_, room, _, fits, same⟩ := add_eq_ok accepted
  have listed : c.operations = b.operations ++ [op] := by rw [same]
  refine ⟨?_, ?_, by omega⟩
  · rw [grown, within.counted, listed]
    simp
  · rw [listed, List.length_append, List.length_singleton]
    omega

theorem Batch.Owned.add_of_apart {b : Batch} {config : SheetConfig} {op : Operation}
    (owned : b.Owned) (within : b.Within config) (isOpen : b.isActive = true)
    (apart : (b.operations ++ [op]).Pairwise Operation.Apart)
    (room : (b.operations ++ [op]).length ≤ config.maxOperations)
    (fits : ((b.operations ++ [op]).map (·.selection.count)).sum ≤ config.maxCells) :
    ∃ c, b.add op config = .ok c := by
  simp only [List.length_append, List.length_singleton] at room
  simp only [List.map_append, List.sum_append, List.map_singleton, List.sum_singleton] at fits
  obtain ⟨_, _, apartFrom⟩ := List.pairwise_append.1 apart
  have unowned : ∀ a ∈ op.selection.cells, b.owner? a = none :=
    owned.unowned_iff.2 fun p listed => apartFrom p listed op (by simp)
  have counted := within.counted
  exact Batch.add_of_room isOpen (by omega) unowned (by omega)

namespace Sheet

def Within (sheet : Sheet) : Prop := ∀ id b, sheet.batch? id = some b → b.Within sheet.config

variable {sheet : Sheet}

theorem Within.step (within : sheet.Within) (reachable : sheet.Reachable) (e : Event) :
    (sheet.step e).Within := by
  intro id c held
  have becomes := reachable.becomes e id
  rw [(step_frame reachable.sound e).1]
  rw [held] at becomes
  generalize before : sheet.batch? id = found at becomes
  cases becomes with
  | begun => exact ⟨rfl, Nat.zero_le _, Nat.zero_le _⟩
  | kept => exact within id c before
  | grown accepted => exact (within id _ before).add accepted
  | closed => exact ⟨(within id _ before).counted, (within id _ before).operations,
      (within id _ before).cells⟩

theorem Reachable.within (reachable : sheet.Reachable) : sheet.Within := by
  refine reachable.invariant (fun store config id b held => ?_)
    fun sheet reached within e => within.step reached e
  simp [batch?] at held

theorem Reachable.owned_within_limits (reachable : sheet.Reachable) {id : BatchId} {b : Batch}
    (held : sheet.batch? id = some b) :
    (∀ a i, b.owner? a = some i ↔ ∃ op, b.operations[i]? = some op ∧ a ∈ op.selection.cells) ∧
    b.operations.Pairwise Operation.Apart ∧
    (∀ a, b.isAffected a = true ↔ Operation.Targeted b.operations a) ∧
    b.affectedCount = (b.operations.map (·.selection.count)).sum ∧
    b.operations.length ≤ sheet.config.maxOperations ∧
    b.affectedCount ≤ sheet.config.maxCells := by
  have owned := (reachable.sound id b held).2.owned
  have within := reachable.within id b held
  exact ⟨owned, owned.apart, owned.isAffected_iff, within.counted, within.operations, within.cells⟩

-- The second operation shares a cell with the first and is refused as a whole, so that the third
-- may target the other cell of its selection.
theorem Reachable.owned_within_limits_after_conflict :
    let first : Operation := .overwriteText (.range ⟨0, 0⟩ ⟨0, 1⟩) "x"
    let third : Operation := .clear (.single ⟨0, 2⟩)
    let sheet := (opened {} { maxCells := 3 } first).after
      [.call 2 (.add ⟨1⟩ (.clear (.range ⟨0, 1⟩ ⟨0, 2⟩))), .call 3 (.add ⟨1⟩ third)]
    ∃ b, sheet.batch? ⟨1⟩ = some b ∧ b.operations = [first, third] ∧
      (b.owner? ⟨0, 2⟩ = some 1 ↔
        ∃ op, b.operations[1]? = some op ∧ (⟨0, 2⟩ : Address) ∈ op.selection.cells) ∧
      b.affectedCount = 3 ∧ b.affectedCount ≤ sheet.config.maxCells := by
  intro first third sheet
  have held : sheet.batch? ⟨1⟩ = some _ := rfl
  have reachable : sheet.Reachable := (opened_reachable _ _ _).after _
  obtain ⟨owned, _, _, counted, _, cells⟩ := reachable.owned_within_limits held
  exact ⟨_, held, rfl, owned ⟨0, 2⟩ 1, counted, cells⟩

end Sheet

end CellLedger
