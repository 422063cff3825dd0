import CellLedger.Proofs.Batch.Run
import CellLedger.Proofs.Operation.Attempts
import CellLedger.Proofs.Store.Spurned

/-!
Why a run of a batch's operations gets stuck, and what its cells hold then. Putting contents back
fails just when cells are left with a refused write (`restore_alarm`), and so does a run
(`runFrom_spurns`). Whatever is refused, a cell holds what it held or what its operation leaves in
it (`runFrom_partDone`).
-/

set_option autoImplicit false

namespace CellLedger

/-- These are, row by row, the cells left with a refused write on the way from `s` to `t`, and there
is one. -/
structure Alarm (s t : Store) (refused : List Address) : Prop where
  some : refused ≠ []
  ascending : refused.Pairwise (· < ·)
  spurned : s.Spurns t (· ∈ refused)

section Restoring

variable {s t : Store} {cells : Address → Prop}

theorem spurned_attempts {captured : SortedMap Address (Option Value)} {refused : List Address}
    (inside : ∀ a ∈ refused, a ∈ captured.keys) (a : Address) :
    spurned (captured.entries.map fun e =>
      ⟨Store.writeKind e.2, e.1, decide (e.1 ∈ refused)⟩) a = true ↔ a ∈ refused := by
  rw [spurned_of_distinct (by simpa [SortedMap.keys, Function.comp_def] using captured.keys_nodup)]
  have written (v : Option Value) : Store.writeKind v ≠ .get := by
    cases v <;> simp [Store.writeKind]
  constructor
  · rintro ⟨x, listed, rfl, rejected⟩
    obtain ⟨e, _, rfl⟩ := List.mem_map.1 listed
    simpa [Access.isRefusedWrite, written] using rejected
  · intro member
    obtain ⟨e, listed, rfl⟩ := List.mem_map.1 (inside a member)
    exact ⟨_, List.mem_map_of_mem listed, rfl, by simp [Access.isRefusedWrite, member, written]⟩

-- Every captured cell is written once more, so that what was refused before no longer counts.
theorem restore_alarm (id : BatchId) {captured : SortedMap Address (Option Value)}
    (first : s.Spurns t cells) (covers : ∀ a, cells a → a ∈ captured.keys) :
    (∃ refused reason u, restore id captured t = (.error (.rollbackFailed id refused reason), u) ∧
        (∀ a ∈ refused, a ∈ captured.keys) ∧ Alarm s u refused) ∨
      ∃ n u, restore id captured t = (.ok n, u) ∧ s.Spurns u fun _ => False := by
  obtain ⟨refused, logs, sublist, _, answer⟩ := restore_attempts id captured t
  have inside : ∀ a ∈ refused, a ∈ captured.keys := fun a member => sublist.subset member
  have left : s.Spurns (restore id captured t).2 (· ∈ refused) := by
    refine first.covered logs (fun a spurn => ?_) (spurned_attempts inside)
    simpa [SortedMap.keys, Function.comp_def] using covers a spurn
  generalize restore id captured t = outcome at left answer ⊢
  obtain ⟨reply, u⟩ := outcome
  rcases answer with ⟨rfl, rfl⟩ | ⟨reason, rfl, some⟩
  · exact .inr ⟨_, u, rfl, by simpa using left⟩
  · have ascending := captured.keys_ascending.sublist sublist
    exact .inl ⟨refused, reason, u, rfl, inside, some, ascending, left⟩

end Restoring

section Running

variable {s t u : Store} {op : Operation} {rest : List Operation}

theorem Store.get_spurns (s : Store) (a : Address) : s.Spurns (s.get a).2 fun _ => False := by
  rcases s.get_logs a with ⟨_, _, read, _, logs⟩ | ⟨_, read, _, logs⟩
  · simpa [read, Access.isRefusedWrite] using logs.spurns_one
  · simpa [read, Access.isRefusedWrite] using logs.spurns_one

theorem Batch.captureCells_spurns (addresses : List Address)
    (captured : SortedMap Address (Option Value)) (s : Store) :
    s.Spurns (captureCells addresses captured s).2.2 fun _ => False := by
  induction addresses generalizing captured s with
  | nil => exact .refl s
  | cons a rest ih =>
    have first := s.get_spurns a
    simp only [captureCells]
    generalize s.get a = outcome at first ⊢
    obtain ⟨reply, t⟩ := outcome
    cases reply with
    | error e => exact first
    | ok value => exact first.trans (ih (captured.insert a value) t)

theorem Batch.capture_spurns (b : Batch) (s : Store) :
    s.Spurns (b.capture s).2.2 fun _ => False := by
  have spurns := captureCells_spurns b.uncaptured b.captured s
  simp only [capture]
  generalize captureCells b.uncaptured b.captured s = outcome at spurns ⊢
  obtain ⟨reply, captured, t⟩ := outcome
  cases reply <;> exact spurns

namespace Operation

theorem executeCell_spurns (op : Operation) (a : Address) (s : Store) :
    (∃ e t cells, op.executeCell a s = (.error e, t) ∧ s.Spurns t cells ∧ ∀ b, cells b → b = a) ∨
      ∃ change t, op.executeCell a s = (.ok change, t) ∧ s.Spurns t fun _ => False := by
  have first := s.get_spurns a
  simp only [executeCell]
  generalize s.get a = outcome at first ⊢
  obtain ⟨reply, t⟩ := outcome
  cases reply with
  | error e => exact .inl ⟨e, t, _, rfl, first, by simp⟩
  | ok current =>
    cases goal : op.goal? a current with
    | none => exact .inr ⟨none, t, by simp only [goal], first⟩
    | some wanted =>
      rcases t.put_logs a wanted with ⟨e, u, written, _, logs⟩ | ⟨u, written, _, logs⟩
      · refine .inl ⟨e, u, _, by simp only [goal, written], first.trans logs.spurns_one, ?_⟩
        rintro b ⟨same, _⟩
        exact same.symm
      · refine .inr ⟨_, u, by simp only [goal, written]; rfl, ?_⟩
        simpa [Access.isRefusedWrite] using first.trans logs.spurns_one

theorem executeCells_spurns (op : Operation) (addresses : List Address) (changes : ChangeSet)
    (s : Store) :
    (∃ e t cells, op.executeCells addresses changes s = (.error e, t) ∧ s.Spurns t cells ∧
        ∀ a, cells a → a ∈ addresses) ∨
      ∃ made t, op.executeCells addresses changes s = (.ok made, t) ∧
        s.Spurns t fun _ => False := by
  induction addresses generalizing changes s with
  | nil => exact .inr ⟨changes, s, rfl, .refl s⟩
  | cons a rest ih =>
    rcases op.executeCell_spurns a s with
      ⟨e, t, cells, step, spurns, inside⟩ | ⟨change, t, step, spurns⟩
    · exact .inl ⟨e, t, cells, by simp only [executeCells, step], spurns,
        fun b spurn => by simp [inside b spurn]⟩
    · rcases ih (file changes a change) t with
        ⟨e, u, cells, run, later, inside⟩ | ⟨made, u, run, later⟩
      · exact .inl ⟨e, u, cells, by simp only [executeCells, step, run], spurns.trans later,
          fun b spurn => List.mem_cons_of_mem a (inside b spurn)⟩
      · exact .inr ⟨made, u, by simp only [executeCells, step, run], spurns.trans later⟩

theorem execute_spurns (op : Operation) (s : Store) :
    (∃ e t cells, op.execute s = (.error e, t) ∧ s.Spurns t cells ∧
        ∀ a, cells a → a ∈ op.selection.cells) ∨
      ∃ result t, op.execute s = (.ok result, t) ∧ s.Spurns t fun _ => False := by
  rcases op.executeCells_spurns op.selection.cells ∅ s with
    ⟨e, t, cells, run, spurns, inside⟩ | ⟨made, t, run, spurns⟩
  · exact .inl ⟨e, t, cells, by simp only [execute, run], spurns, inside⟩
  · exact .inr ⟨_, t, by simp only [execute, run]; rfl, spurns⟩

end Operation

/-- What a run that ends like this left with a refused write on the way from `s` to `t`. -/
def Ending.Spurns (id : BatchId) (operations : List Operation) (s t : Store) : Ending → Prop
  | .finished => s.Spurns t fun _ => False
  | .abandoned => ∃ cells, s.Spurns t cells ∧ ∀ a, cells a → Operation.Targeted operations a
  | .stuck e => ∃ refused reason, e = .rollbackFailed id refused reason ∧
    (∀ a ∈ refused, Operation.Targeted operations a) ∧ Alarm s t refused

theorem Ending.Spurns.after {id : BatchId} {operations : List Operation} {ending : Ending}
    (first : s.Spurns u fun _ => False) (later : ending.Spurns id operations u t) :
    ending.Spurns id operations s t := by
  cases ending with
  | finished => exact first.trans later
  | abandoned =>
    obtain ⟨cells, left, inside⟩ := later
    exact ⟨cells, first.trans left, inside⟩
  | stuck e =>
    obtain ⟨refused, reason, rfl, inside, alarm⟩ := later
    exact ⟨refused, reason, rfl, inside, alarm.some, alarm.ascending, first.trans alarm.spurned⟩

theorem Ending.Spurns.cons {id : BatchId} {ending : Ending} (later : ending.Spurns id rest s t) :
    ending.Spurns id (op :: rest) s t := by
  cases ending with
  | finished => exact later
  | abandoned =>
    obtain ⟨cells, left, inside⟩ := later
    exact ⟨cells, left, fun a spurn => Operation.targeted_tail (inside a spurn)⟩
  | stuck e =>
    obtain ⟨refused, reason, rfl, inside, alarm⟩ := later
    exact ⟨refused, reason, rfl, fun a member => Operation.targeted_tail (inside a member), alarm⟩

namespace Batch

theorem runFrom_spurns (b : Batch) (autoRollback : Bool) (index : Nat)
    (operations : List Operation) (s : Store)
    (captures : ∀ op ∈ operations, ∀ a, a ∈ (b.capturedOf op).keys ↔ a ∈ op.selection.cells) :
    (b.runFrom autoRollback index operations s).1.ending.Spurns b.id operations s
      (b.runFrom autoRollback index operations s).2 := by
  induction operations generalizing index s with
  | nil => exact .refl s
  | cons op rest ih =>
    have later (u : Store) := ih (index + 1) u fun p listed => captures p (by simp [listed])
    rcases op.execute_spurns s with ⟨e, u, cells, run, spurns, inside⟩ | ⟨result, u, run, spurns⟩
    · simp only [runFrom, run]
      by_cases rollback : autoRollback = true
      · rw [if_pos rollback]
        exact ⟨cells, spurns, fun a spurn => Operation.targeted_head (inside a spurn)⟩
      · rw [if_neg rollback]
        -- All cells that the operation can have been refused are written once more.
        have mine := captures op (by simp)
        rcases restore_alarm b.id spurns fun a spurn => (mine a).2 (inside a spurn) with
          ⟨refused, reason, v, restored, within, alarm⟩ | ⟨n, v, restored, left⟩
        · simp only [restored]
          exact ⟨refused, reason, rfl,
            fun a member => Operation.targeted_head ((mine a).1 (within a member)), alarm⟩
        · simp only [restored]
          exact .cons (.after left (later v))
    · simp only [runFrom, run]
      exact .cons (.after spurns (later u))

end Batch

end Running

section Contents

variable {before middle after : Cells} {operations rest : List Operation} {op : Operation}

namespace Operation

/-- Every cell holds what it held, or what the operation that targets it leaves in it. -/
def PartDone (operations : List Operation) (before after : Cells) : Prop :=
  ∀ a, after.get? a = before.get? a ∨
    ∃ op ∈ operations, a ∈ op.selection.cells ∧ after.get? a = op.outcome a (before.get? a)

theorem execute_partDone (op : Operation) (s : Store) :
    PartDone [op] s.cells (op.execute s).2.cells := by
  obtain ⟨selected, elsewhere⟩ := op.execute_interrupted s
  intro a
  by_cases member : a ∈ op.selection.cells
  · rcases selected a member with untouched | done
    · exact .inl untouched
    · exact .inr ⟨op, by simp, member, by rw [done, get?_apply]⟩
  · exact .inl (elsewhere a member)

theorem PartDone.cons (apart : ∀ p ∈ rest, op.Apart p) (first : PartDone [op] before middle)
    (later : PartDone rest middle after) : PartDone (op :: rest) before after := by
  intro a
  rcases later a with same | ⟨p, listed, member, done⟩
  · rw [same]
    rcases first a with same | ⟨p, listed, member, done⟩
    · exact .inl same
    · exact .inr ⟨p, by simp [List.mem_singleton.1 listed], member, done⟩
  · -- The first operation left the cell alone, since another one targets it.
    rcases first a with same | ⟨q, only, memberToo, _⟩
    · exact .inr ⟨p, by simp [listed], member, by rw [done, same]⟩
    · obtain rfl := List.mem_singleton.1 only
      exact absurd member (apart p listed a memberToo)

theorem PartDone.restore {s : Store} (part : PartDone operations before s.cells) (id : BatchId)
    (cells : List Address) :
    PartDone operations before (restore id (before.snapshot cells) s).2.cells := by
  obtain ⟨refused, _, _, contents, _⟩ := restore_attempts id (before.snapshot cells) s
  intro a
  rw [contents a, Cells.get?_snapshot]
  by_cases accepted : a ∉ refused ∧ a ∈ cells
  · simp [accepted]
  · rw [not_and_or, not_not] at accepted
    rcases accepted with rejected | outside
    · simpa [rejected] using part a
    · simpa [outside] using part a

end Operation

theorem Batch.runFrom_partDone (b : Batch) (autoRollback : Bool) (index : Nat)
    {operations : List Operation} (apart : operations.Pairwise Operation.Apart) (s : Store)
    (captures : b.Captures operations s) :
    Operation.PartDone operations s.cells (b.runFrom autoRollback index operations s).2.cells := by
  induction operations generalizing index s with
  | nil => exact fun _ => .inl rfl
  | cons op rest ih =>
    obtain ⟨apartHead, apartRest⟩ := List.pairwise_cons.1 apart
    have first := op.execute_partDone s
    have touches := op.execute_touches s
    generalize run : op.execute s = outcome at first touches
    obtain ⟨reply, u⟩ := outcome
    cases reply with
    | error e =>
      simp only [runFrom, run]
      by_cases rollback : autoRollback = true
      · rw [if_pos rollback]
        exact .cons apartHead first fun _ => .inl rfl
      · rw [if_neg rollback, captures op (by simp)]
        have back := first.restore b.id op.selection.cells
        rcases restore_snapshot (fun a outside => touches.frame outside) b.id with
          ⟨_, _, v, restored, _, _, _⟩ | ⟨_, v, restored, _, touchesBack⟩
        · rw [restored] at back
          simp only [restored]
          exact .cons apartHead back fun _ => .inl rfl
        · rw [restored] at back
          simp only [restored]
          exact .cons apartHead back (ih (index + 1) apartRest v
            (captures.later apartHead (touches.trans touchesBack)))
    | ok result =>
      simp only [runFrom, run]
      exact .cons apartHead first (ih (index + 1) apartRest u (captures.later apartHead touches))

end Contents

end CellLedger
