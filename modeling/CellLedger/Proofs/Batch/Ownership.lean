import CellLedger.Batch
import CellLedger.Proofs.Operation.Execute

/-!
Which operation of a batch targets which cell. `Batch.Owned` is kept by every registration, and it
makes the operations of a batch target disjoint cells.
-/

set_option autoImplicit false

namespace CellLedger

def Operation.Apart (p q : Operation) : Prop := ∀ a ∈ p.selection.cells, a ∉ q.selection.cells

def Operation.Targeted (operations : List Operation) (a : Address) : Prop :=
  ∃ op ∈ operations, a ∈ op.selection.cells

namespace Batch

/-- A cell is registered to exactly the operation that targets it. -/
def Owned (b : Batch) : Prop :=
  ∀ a i, b.owner? a = some i ↔ ∃ op, b.operations[i]? = some op ∧ a ∈ op.selection.cells

theorem sharedCell?_eq_none {b : Batch} {selection : Selection} :
    b.sharedCell? selection = none ↔ ∀ a ∈ selection.cells, b.owner? a = none := by
  simp [sharedCell?]

theorem sharedCell?_eq_some_iff {b : Batch} {selection : Selection} {a : Address} {i : Nat} :
    b.sharedCell? selection = some (a, i) ↔
      a ∈ selection.cells ∧ b.owner? a = some i ∧
        ∀ c ∈ selection.cells, c < a → b.owner? c = none := by
  simp only [sharedCell?, List.findSome?_eq_some_iff, Option.map_eq_some_iff,
    Option.map_eq_none_iff, Prod.mk.injEq]
  constructor
  · rintro ⟨before, _, after, split, ⟨_, owner, rfl, rfl⟩, unowned⟩
    refine ⟨by simp [split], owner, fun c member below => ?_⟩
    exact unowned c ((Selection.mem_before_iff split).2 ⟨member, below⟩)
  · rintro ⟨member, owner, unowned⟩
    obtain ⟨before, after, split⟩ := List.append_of_mem member
    refine ⟨before, a, after, split, ⟨i, owner, rfl, rfl⟩, fun c earlier => ?_⟩
    obtain ⟨selected, below⟩ := (Selection.mem_before_iff split).1 earlier
    exact unowned c selected below

theorem add_eq_ok {b added : Batch} {op : Operation} {config : SheetConfig}
    (accepted : b.add op config = .ok added) :
    b.isActive = true ∧ b.operations.length < config.maxOperations ∧
      (∀ a ∈ op.selection.cells, b.owner? a = none) ∧
      b.affectedCount + op.selection.count ≤ config.maxCells ∧
      added = { b with
        operations := b.operations ++ [op]
        owners := b.owners.insertAll
          (op.selection.cells.map fun a => (a, b.operations.length)) } := by
  simp only [add] at accepted
  split at accepted
  · simp at accepted
  next isOpen =>
  split at accepted
  · simp at accepted
  next room =>
  split at accepted
  · simp at accepted
  next unshared =>
  split at accepted
  · simp at accepted
  next fits =>
  refine ⟨by simpa using isOpen, by omega, sharedCell?_eq_none.1 unshared, by omega, ?_⟩
  exact (Except.ok.inj accepted).symm

theorem id_of_add {b added : Batch} {op : Operation} {config : SheetConfig}
    (accepted : b.add op config = .ok added) : added.id = b.id := by
  obtain ⟨_, _, _, _, rfl⟩ := add_eq_ok accepted
  rfl

theorem add_of_room {b : Batch} {op : Operation} {config : SheetConfig} (isOpen : b.isActive = true)
    (room : b.operations.length < config.maxOperations)
    (unowned : ∀ a ∈ op.selection.cells, b.owner? a = none)
    (fits : b.affectedCount + op.selection.count ≤ config.maxCells) :
    ∃ added, b.add op config = .ok added := by
  have roomForOne : ¬ config.maxOperations < b.operations.length + 1 := by omega
  have roomForCells : ¬ config.maxCells < b.affectedCount + op.selection.count := by omega
  simp [add, isOpen, roomForOne, sharedCell?_eq_none.2 unowned, roomForCells]

theorem getElem?_concat_eq_some {operations : List Operation} {op p : Operation} {i : Nat} :
    (operations ++ [op])[i]? = some p ↔
      operations[i]? = some p ∨ (i = operations.length ∧ op = p) := by
  rcases Nat.lt_trichotomy i operations.length with earlier | rfl | later
  · have different : i ≠ operations.length := by omega
    simp [List.getElem?_append_left earlier, different]
  · simp
  · have different : i ≠ operations.length := by omega
    have outside : operations[i]? = none := List.getElem?_eq_none (by omega)
    have outsideBoth : (operations ++ [op])[i]? = none := List.getElem?_eq_none (by simp; omega)
    simp [outside, outsideBoth, different]

theorem Owned.add {b added : Batch} {op : Operation} {config : SheetConfig} (owned : b.Owned)
    (accepted : b.add op config = .ok added) : added.Owned := by
  obtain ⟨_, _, unowned, _, same⟩ := add_eq_ok accepted
  intro a i
  have registered : added.owner? a =
      if a ∈ op.selection.cells then some b.operations.length else b.owner? a := by
    rw [same]
    exact SortedMap.get?_insertAll_map
  have listed : (∃ p, added.operations[i]? = some p ∧ a ∈ p.selection.cells) ↔
      b.owner? a = some i ∨ (i = b.operations.length ∧ a ∈ op.selection.cells) := by
    rw [owned a i, same]
    simp only [getElem?_concat_eq_some, or_and_right, exists_or, and_assoc, exists_and_left,
      exists_eq_left']
  rw [registered, listed]
  by_cases member : a ∈ op.selection.cells
  · simp [member, unowned a member, eq_comm]
  · simp [member]

theorem affectedCount_add {b added : Batch} {op : Operation} {config : SheetConfig}
    (accepted : b.add op config = .ok added) :
    added.affectedCount = b.affectedCount + op.selection.count := by
  obtain ⟨_, _, unowned, _, rfl⟩ := add_eq_ok accepted
  let entries := op.selection.cells.map fun a => (a, b.operations.length)
  have cells : entries.map Prod.fst = op.selection.cells := by simp [entries, Function.comp_def]
  have distinct : (entries.map Prod.fst).Nodup := by
    rw [cells]
    exact op.selection.cells_nodup
  have fresh : ∀ a ∈ entries.map Prod.fst, a ∉ b.owners.keys := by
    rw [cells]
    exact fun a member => SortedMap.get?_eq_none_iff.1 (unowned a member)
  have grown := SortedMap.size_insertAll distinct fresh
  simpa [affectedCount, Selection.count, entries] using grown

theorem Owned.of_operations_eq {b c : Batch} (owned : b.Owned)
    (operations : c.operations = b.operations) (owners : c.owners = b.owners) : c.Owned := by
  intro a i
  rw [operations, owner?, owners]
  exact owned a i

theorem Owned.apart {b : Batch} (owned : b.Owned) : b.operations.Pairwise Operation.Apart := by
  rw [List.pairwise_iff_getElem]
  intro i j boundI boundJ earlier a member memberLater
  -- A cell of two operations would be registered to both indices.
  have first := (owned a i).2 ⟨_, List.getElem?_eq_getElem boundI, member⟩
  have second := (owned a j).2 ⟨_, List.getElem?_eq_getElem boundJ, memberLater⟩
  rw [first, Option.some.injEq] at second
  omega

theorem Owned.mem_owners_iff {b : Batch} (owned : b.Owned) {a : Address} :
    a ∈ b.owners.keys ↔ Operation.Targeted b.operations a := by
  rw [SortedMap.mem_keys_iff]
  constructor
  · rintro ⟨i, owner⟩
    obtain ⟨op, found, member⟩ := (owned a i).1 owner
    exact ⟨op, List.mem_of_getElem? found, member⟩
  · rintro ⟨op, listed, member⟩
    obtain ⟨i, found⟩ := List.getElem?_of_mem listed
    exact ⟨i, (owned a i).2 ⟨op, found, member⟩⟩

theorem Owned.owner?_eq_none_iff {b : Batch} (owned : b.Owned) {a : Address} :
    b.owner? a = none ↔ ¬ Operation.Targeted b.operations a := by
  rw [← owned.mem_owners_iff]
  exact SortedMap.get?_eq_none_iff

theorem Owned.unowned_iff {b : Batch} {op : Operation} (owned : b.Owned) :
    (∀ a ∈ op.selection.cells, b.owner? a = none) ↔ ∀ p ∈ b.operations, p.Apart op := by
  simp only [owned.owner?_eq_none_iff, Operation.Targeted, Operation.Apart, not_exists, not_and]
  exact ⟨fun unowned p listed a member selected => unowned a selected p listed member,
    fun apart a selected p listed member => apart p listed a member selected⟩

theorem Owned.isAffected_iff {b : Batch} (owned : b.Owned) (a : Address) :
    b.isAffected a = true ↔ Operation.Targeted b.operations a := by
  rw [← owned.mem_owners_iff, SortedMap.mem_keys_iff]
  exact Option.isSome_iff_exists

end Batch

end CellLedger
