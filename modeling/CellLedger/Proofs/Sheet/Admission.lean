import CellLedger.Proofs.Sheet.Contents
import CellLedger.Proofs.Sheet.Limits

/-!
Which operations a batch admits. `Batch.Admits` says what has to hold, and `Refuses` which of the
checks, taken in their order, is the first to fail. A registration answers accordingly; refused it
leaves the sheet as it is, and accepted it extends just the one batch (`Reachable.add_exact`).
-/

set_option autoImplicit false

namespace CellLedger

/-- The cells that the operations target, each once. -/
def Operation.targets (operations : List Operation) : Selection :=
  .ofList (operations.flatMap (·.selection.cells))

theorem Selection.count_ofList {cells : List Address} (distinct : cells.Nodup) :
    (ofList cells).count = cells.length := by
  apply List.Perm.length_eq
  rw [List.perm_ext_iff_of_nodup (cells_nodup _) distinct]
  exact fun a => mem_ofList

theorem Operation.count_targets {operations : List Operation} (apart : operations.Pairwise Apart) :
    (targets operations).count = (operations.map (·.selection.count)).sum := by
  rw [targets, Selection.count_ofList, List.length_flatMap]
  · rfl
  · exact List.nodup_flatMap.2 ⟨fun op _ => op.selection.cells_nodup, apart⟩

namespace Batch

structure Admits (b : Batch) (config : SheetConfig) (op : Operation) : Prop where
  isOpen : b.state = .active
  room : b.operations.length < config.maxOperations
  apart : ∀ p ∈ b.operations, p.Apart op
  fits : b.affectedCount + op.selection.count ≤ config.maxCells

/-- Row by row the first cell that the operation shares with the batch. Of the operations of the
batch just the one with this index targets it. -/
structure FirstShared (b : Batch) (op : Operation) (a : Address) (i : Nat) : Prop where
  selected : a ∈ op.selection.cells
  owner : ∀ j, (∃ p, b.operations[j]? = some p ∧ a ∈ p.selection.cells) ↔ j = i
  least : ∀ c ∈ op.selection.cells, Operation.Targeted b.operations c → ¬ c < a

/-- The first check that fails. -/
inductive Refuses (b : Batch) (config : SheetConfig) (op : Operation) : BatchError → Prop
  | closed (closed : b.state ≠ .active) : Refuses b config op (.inactive b.id b.state)
  | full (isOpen : b.state = .active) (full : config.maxOperations ≤ b.operations.length) :
      Refuses b config op (.sizeLimit config.maxOperations)
  | shared {a : Address} {i : Nat} (isOpen : b.state = .active)
      (room : b.operations.length < config.maxOperations) (first : b.FirstShared op a i) :
      Refuses b config op (.conflict a i)
  | large {projected : Nat} (isOpen : b.state = .active)
      (room : b.operations.length < config.maxOperations)
      (apart : ∀ p ∈ b.operations, p.Apart op)
      (sum : projected = b.affectedCount + op.selection.count)
      (union : projected = (Operation.targets (b.operations ++ [op])).count)
      (large : config.maxCells < projected) :
      Refuses b config op (.cellLimit config.maxCells projected)

/-- The operation comes last and owns the cells it targets; nothing else of the batch is altered. -/
structure ExtendedBy (b : Batch) (op : Operation) (c : Batch) : Prop where
  operations : c.operations = b.operations ++ [op]
  owners : ∀ a, c.owner? a =
    if a ∈ op.selection.cells then some b.operations.length else b.owner? a
  rest : { c with operations := b.operations, owners := b.owners } = b

variable {b c : Batch} {config : SheetConfig} {op : Operation} {e : BatchError}

theorem isActive_iff : b.isActive = true ↔ b.state = .active := decide_eq_true_iff

theorem Owned.firstShared_iff (owned : b.Owned) {a : Address} {i : Nat} :
    b.FirstShared op a i ↔ b.sharedCell? op.selection = some (a, i) := by
  rw [sharedCell?_eq_some_iff]
  constructor
  · intro first
    refine ⟨first.selected, (owned a i).2 ((first.owner i).2 rfl), fun c selected below => ?_⟩
    exact owned.owner?_eq_none_iff.2 fun targeted => first.least c selected targeted below
  · rintro ⟨selected, owner, unowned⟩
    refine ⟨selected, fun j => ?_, fun c member targeted below => ?_⟩
    · rw [← owned a j, owner, Option.some.injEq]
      exact eq_comm
    · exact owned.owner?_eq_none_iff.1 (unowned c member below) targeted

theorem extendedBy_of_add (accepted : b.add op config = .ok c) : b.ExtendedBy op c := by
  obtain ⟨_, _, _, _, rfl⟩ := add_eq_ok accepted
  exact ⟨rfl, fun a => SortedMap.get?_insertAll_map, rfl⟩

theorem Owned.add_eq_ok_iff (owned : b.Owned) :
    (∃ c, b.add op config = .ok c) ↔ b.Admits config op := by
  constructor
  · rintro ⟨c, accepted⟩
    obtain ⟨isOpen, room, unowned, fits, _⟩ := add_eq_ok accepted
    exact ⟨isActive_iff.1 isOpen, room, owned.unowned_iff.1 unowned, fits⟩
  · intro admits
    exact add_of_room (isActive_iff.2 admits.isOpen) admits.room
      (owned.unowned_iff.2 admits.apart) admits.fits

-- A batch counts its cells once each, so that the sum is the size of the union.
theorem Owned.count_targets (owned : b.Owned) (within : b.Within config)
    (apart : ∀ p ∈ b.operations, p.Apart op) :
    b.affectedCount + op.selection.count = (Operation.targets (b.operations ++ [op])).count := by
  have pairwise : (b.operations ++ [op]).Pairwise Operation.Apart := by
    refine List.pairwise_append.2 ⟨owned.apart, List.pairwise_singleton _ _, ?_⟩
    intro p listed q last
    rw [List.mem_singleton.1 last]
    exact apart p listed
  rw [Operation.count_targets pairwise, within.counted]
  simp

theorem Owned.add_eq_error_iff (owned : b.Owned) (within : b.Within config) :
    b.add op config = .error e ↔ b.Refuses config op e := by
  constructor
  · intro refused
    simp only [Batch.add] at refused
    split at refused
    next closed =>
      cases refused
      exact .closed (by simpa [isActive] using closed)
    next unclosed =>
    have isOpen : b.state = .active := by simpa [isActive] using unclosed
    split at refused
    next full =>
      cases refused
      exact .full isOpen (by omega)
    next roomForOne =>
    have room : b.operations.length < config.maxOperations := by omega
    split at refused
    next a i shared =>
      cases refused
      exact .shared isOpen room (owned.firstShared_iff.2 shared)
    next unshared =>
    have apart := owned.unowned_iff.1 (sharedCell?_eq_none.1 unshared)
    split at refused
    next large =>
      cases refused
      exact .large isOpen room apart rfl (owned.count_targets within apart) large
    · cases refused
  · intro refuses
    cases refuses with
    | closed closed => simp [Batch.add, isActive, closed]
    | full isOpen full =>
      have none : config.maxOperations < b.operations.length + 1 := by omega
      simp [Batch.add, isActive, isOpen, none]
    | shared isOpen room first =>
      have one : ¬ config.maxOperations < b.operations.length + 1 := by omega
      simp [Batch.add, isActive, isOpen, one, owned.firstShared_iff.1 first]
    | large isOpen room apart sum _ large =>
      have one : ¬ config.maxOperations < b.operations.length + 1 := by omega
      have unshared := sharedCell?_eq_none.2 (owned.unowned_iff.2 apart)
      subst sum
      simp [Batch.add, isActive, isOpen, one, unshared, large]

end Batch

namespace Sheet

inductive Refuses (sheet : Sheet) (id : BatchId) (op : Operation) : BatchError → Prop
  | unknown (untracked : sheet.batch? id = none) : Refuses sheet id op (.notFound id)
  | tracked {b : Batch} {e : BatchError} (held : sheet.batch? id = some b) (number : b.id = id)
      (refuses : b.Refuses sheet.config op e) : Refuses sheet id op e

variable {sheet : Sheet} {id : BatchId} {b : Batch} {op : Operation} {e : BatchError}

theorem add_of_unknown (untracked : sheet.batch? id = none) :
    sheet.add id op = (.error (.notFound id), sheet) := by
  simp only [add, find, untracked]

theorem add_of_held (held : sheet.batch? id = some b) :
    (sheet.add id op).1 = (b.add op sheet.config).map fun _ => () := by
  cases answer : b.add op sheet.config <;> simp [add, find, held, answer, Except.map]

theorem Reachable.add_ok_iff (reachable : sheet.Reachable) :
    (sheet.add id op).1 = .ok () ↔
      ∃ b, sheet.batch? id = some b ∧ b.Admits sheet.config op := by
  cases held : sheet.batch? id with
  | none => simp [add_of_unknown held]
  | some b =>
    have owned := (reachable.sound id b held).2.owned
    rw [add_of_held held]
    cases answer : b.add op sheet.config with
    | ok c => simpa [Except.map] using owned.add_eq_ok_iff.1 ⟨c, answer⟩
    | error e =>
      have refused : ¬ b.Admits sheet.config op := by
        rw [← owned.add_eq_ok_iff]
        simp [answer]
      simpa [Except.map] using refused

theorem Reachable.add_error_iff (reachable : sheet.Reachable) :
    (sheet.add id op).1 = .error e ↔ sheet.Refuses id op e := by
  cases held : sheet.batch? id with
  | none =>
    rw [add_of_unknown held]
    constructor
    · rintro ⟨⟩
      exact .unknown held
    · rintro (_ | ⟨tracked, _, _⟩)
      · rfl
      · simp [held] at tracked
  | some b =>
    obtain ⟨number, sound⟩ := reachable.sound id b held
    have refused : (sheet.add id op).1 = .error e ↔ b.add op sheet.config = .error e := by
      rw [add_of_held held]
      cases b.add op sheet.config <;> simp [Except.map]
    rw [refused, sound.owned.add_eq_error_iff (reachable.within id b held)]
    constructor
    · exact .tracked held number
    · rintro (untracked | ⟨tracked, _, refuses⟩)
      · simp [held] at untracked
      · obtain rfl := Option.some.inj (held.symm.trans tracked)
        exact refuses

theorem add_of_error (refused : (sheet.add id op).1 = .error e) : (sheet.add id op).2 = sheet := by
  rcases sheet.add_cases id op with ⟨_, run⟩ | ⟨_, _, _, _, run⟩
  · rw [run]
  · rw [run] at refused
    cases refused

-- Only the one batch differs, and only by the operation.
theorem Sound.add_extends (sound : sheet.Sound) (accepted : (sheet.add id op).1 = .ok ()) :
    ∃ b c, sheet.batch? id = some b ∧ (sheet.add id op).2.batch? id = some c ∧
      b.ExtendedBy op c ∧
      (∀ other, other ≠ id → (sheet.add id op).2.batch? other = sheet.batch? other) ∧
      { (sheet.add id op).2 with batches := sheet.batches } = sheet := by
  rcases sheet.add_cases id op with ⟨_, run⟩ | ⟨b, c, held, grown, run⟩
  · rw [run] at accepted
    cases accepted
  · have number : c.id = id := (Batch.id_of_add grown).trans (sound id b held).1
    rw [run]
    refine ⟨b, c, held, ?_, Batch.extendedBy_of_add grown, fun other different => ?_, rfl⟩
    · rw [batch?_putBatch, if_pos number]
    · rw [batch?_putBatch, if_neg (number ▸ different.symm)]

theorem Reachable.add_exact (reachable : sheet.Reachable) (id : BatchId) (op : Operation) :
    let added := sheet.add id op
    (added.1 = .ok () ↔ ∃ b, sheet.batch? id = some b ∧ b.Admits sheet.config op) ∧
    (∀ e, added.1 = .error e ↔ sheet.Refuses id op e) ∧
    (∀ e, added.1 = .error e → added.2 = sheet) ∧
    (added.1 = .ok () → ∃ b c, sheet.batch? id = some b ∧ added.2.batch? id = some c ∧
      b.ExtendedBy op c ∧ (∀ other, other ≠ id → added.2.batch? other = sheet.batch? other) ∧
      { added.2 with batches := sheet.batches } = sheet) ∧
    added.2.store = sheet.store :=
  ⟨reachable.add_ok_iff, fun _ => reachable.add_error_iff, fun _ => add_of_error,
    reachable.sound.add_extends, sheet.add_store id op⟩

-- Of two shared cells the conflict names the first, which the operation registered last targets. It
-- is found before the limit of cells is looked at, which would be passed too.
theorem Reachable.add_exact_shared :
    let first : Operation := .overwriteText (.single ⟨1, 0⟩) "x"
    let sheet := (opened {} { maxCells := 3 } first).after
      [.call 2 (.add ⟨1⟩ (.overwriteText (.single ⟨0, 1⟩) "y"))]
    let op : Operation := .clear (.range ⟨0, 0⟩ ⟨1, 1⟩)
    sheet.Reachable ∧ (sheet.add ⟨1⟩ op).1 = .error (.conflict ⟨0, 1⟩ 1) ∧
      sheet.Refuses ⟨1⟩ op (.conflict ⟨0, 1⟩ 1) ∧ (sheet.add ⟨1⟩ op).2 = sheet := by
  intro first sheet op
  have reachable : sheet.Reachable := (opened_reachable _ _ _).after _
  have refused : (sheet.add ⟨1⟩ op).1 = .error (.conflict ⟨0, 1⟩ 1) := by decide +kernel
  obtain ⟨_, refuses, unchanged, _⟩ := reachable.add_exact ⟨1⟩ op
  exact ⟨reachable, refused, (refuses _).1 refused, unchanged _ refused⟩

end Sheet

end CellLedger
