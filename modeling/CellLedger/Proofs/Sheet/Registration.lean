import CellLedger.Proofs.Sheet.Contents
import CellLedger.Proofs.Sheet.Lifecycle
import CellLedger.Proofs.Sheet.Limits
import Mathlib.Data.List.Induction

/-!
What batches are registered: the operations of a tracked batch are those it accepted, in that order
(`Reachable.operations_after`), and a fresh sheet accepts all of them again (`alone_tracks`).
-/

set_option autoImplicit false

namespace CellLedger

namespace Sheet

variable {sheet : Sheet} {id : BatchId} {b c : Batch} {e : Event} {op : Operation}

/-- The operation that an event registers to the batch. -/
def accepts? (sheet : Sheet) (id : BatchId) : Event → Option Operation
  | .call _ (.add target op) =>
    match (sheet.add target op).1 with
    | .ok () => if target = id then some op else none
    | .error _ => none
  | _ => none

def accepted : Sheet → BatchId → List Event → List Operation
  | _, _, [] => []
  | sheet, id, e :: rest => (sheet.accepts? id e).toList ++ accepted (sheet.step e) id rest

theorem add_of_accepts? (accepts : sheet.accepts? id e = some op) :
    ∃ now b c, e = .call now (.add id op) ∧ sheet.batch? id = some b ∧
      b.add op sheet.config = .ok c := by
  cases e with
  | exchange => simp [accepts?] at accepts
  | executeSingle => simp [accepts?] at accepts
  | call now call =>
    cases call with
    | add target p =>
      rcases sheet.add_cases target p with ⟨_, run⟩ | ⟨b, c, held, grown, run⟩
      · simp [accepts?, run] at accepts
      · simp only [accepts?, run, Option.ite_none_right_eq_some, Option.some.injEq] at accepts
        obtain ⟨rfl, rfl⟩ := accepts
        exact ⟨now, b, c, rfl, held, grown⟩
    | _ => simp [accepts?] at accepts

theorem accepts?_of_add (held : sheet.batch? id = some b) (grown : b.add op sheet.config = .ok c)
    (now : Instant) : sheet.accepts? id (.call now (.add id op)) = some op := by
  simp [accepts?, add, find, held, grown]

theorem batch?_step_add (sound : sheet.Sound) (held : sheet.batch? id = some b)
    (grown : b.add op sheet.config = .ok c) (now : Instant) :
    (sheet.step (.call now (.add id op))).batch? id = some c := by
  have number : c.id = id := (Batch.id_of_add grown).trans (sound id b held).1
  simp only [step, call, add, find, held, grown]
  rw [batch?_putBatch, if_pos number]

-- The operations of the batch filed under a number; none if there is no such batch.
def registered (sheet : Sheet) (id : BatchId) : List Operation :=
  (sheet.batch? id).elim [] (·.operations)

theorem Reachable.registered_step (reachable : sheet.Reachable)
    (held : (sheet.step e).batch? id = some c) :
    c.operations = sheet.registered id ++ (sheet.accepts? id e).toList := by
  cases accepts : sheet.accepts? id e with
  | some op =>
    obtain ⟨now, b, grown, rfl, before, accepted⟩ := add_of_accepts? accepts
    rw [batch?_step_add reachable.sound before accepted now] at held
    obtain rfl := Option.some.inj held
    obtain ⟨_, _, _, _, rfl⟩ := Batch.add_eq_ok accepted
    simp [registered, before]
  | none =>
    have becomes := reachable.becomes e id
    rw [held] at becomes
    simp only [registered]
    generalize before : sheet.batch? id = found at becomes ⊢
    cases becomes with
    | begun => rfl
    | kept => simp
    | grown grown => simp [accepts?_of_add before grown] at accepts
    | closed => simp

theorem Reachable.operations_after (reachable : sheet.Reachable) {events : List Event}
    (held : (sheet.after events).batch? id = some c) :
    c.operations = sheet.registered id ++ sheet.accepted id events := by
  induction events generalizing sheet with
  | nil =>
    rw [after_nil] at held
    simp [registered, held, accepted]
  | cons e rest ih =>
    have later := ih (reachable.step e) held
    cases next : (sheet.step e).batch? id with
    | some m =>
      have first := reachable.registered_step next
      have middle : (sheet.step e).registered id = m.operations := by simp [registered, next]
      rw [later, middle, first, accepted, List.append_assoc]
    | none =>
      -- The batch is begun by a later event, so that nothing was registered to it so far.
      have before : sheet.batch? id = none := by
        refine Option.eq_none_iff_forall_ne_some.2 fun b tracked => ?_
        rw [after_cons, reachable.gone_after tracked next rest] at held
        cases held
      have refused : sheet.accepts? id e = none := by
        refine Option.eq_none_iff_forall_ne_some.2 fun op accepts => ?_
        obtain ⟨_, b, _, _, tracked, _⟩ := add_of_accepts? accepts
        simp [before] at tracked
      rw [later]
      simp [registered, accepted, before, next, refused]

/-- A fresh sheet with these contents, on which one batch was begun and given these operations. -/
def alone (contents : Cells) (config : SheetConfig) (operations : List Operation)
    (begun : Instant) : Sheet :=
  Sheet.after { store := .ofCells contents, config }
    (.call begun (.begin ∅) :: operations.map fun op => .call begun (.add ⟨1⟩ op))

section Alone

variable {config : SheetConfig} {operations : List Operation}

theorem alone_reachable (contents : Cells) (config : SheetConfig) (operations : List Operation)
    (begun : Instant) : (alone contents config operations begun).Reachable :=
  (Reachable.start (.ofCells contents) config).after _

theorem alone_concat (contents : Cells) (config : SheetConfig) (operations : List Operation)
    (begun : Instant) (op : Operation) :
    alone contents config (operations ++ [op]) begun =
      ((alone contents config operations begun).add ⟨1⟩ op).2 := by
  simp only [alone, List.map_append, List.map_singleton, ← List.cons_append, after_append]
  rfl

-- Operations that one batch can hold are all accepted, however often they were refused elsewhere.
theorem alone_tracks (contents : Cells) (begun : Instant)
    (apart : operations.Pairwise Operation.Apart) (room : operations.length ≤ config.maxOperations)
    (fits : (operations.map (·.selection.count)).sum ≤ config.maxCells) :
    ∃ b, (alone contents config operations begun).batch? ⟨1⟩ = some b ∧ b.isActive = true ∧
      b.operations = operations ∧ b.startedAt = begun ∧
      (alone contents config operations begun).store = .ofCells contents ∧
      (alone contents config operations begun).config = config := by
  induction operations using List.reverseRecOn with
  | nil => exact ⟨{ id := ⟨1⟩, startedAt := begun }, rfl, rfl, rfl, rfl, rfl, rfl⟩
  | append_singleton operations op ih =>
    have apartBefore := (List.pairwise_append.1 apart).1
    have roomBefore : operations.length ≤ config.maxOperations := by
      simp only [List.length_append] at room
      omega
    have fitsBefore : (operations.map (·.selection.count)).sum ≤ config.maxCells := by
      simp only [List.map_append, List.sum_append] at fits
      omega
    obtain ⟨b, held, isOpen, listed, started, store, settings⟩ :=
      ih apartBefore roomBefore fitsBefore
    have reachable := alone_reachable contents config operations begun
    have within := reachable.within _ b held
    have owned := (reachable.sound _ b held).2.owned
    rw [alone_concat]
    generalize alone contents config operations begun = sheet at *
    subst settings
    rw [← listed] at apart room fits
    obtain ⟨c, accepted⟩ := owned.add_of_apart within isOpen apart room fits
    have tracked := batch?_step_add reachable.sound held accepted begun
    have frame := sheet.frame_add ⟨1⟩ op
    obtain ⟨_, _, _, _, rfl⟩ := Batch.add_eq_ok accepted
    exact ⟨_, tracked, isOpen, by simp [listed], started, (sheet.add_store ⟨1⟩ op).trans store,
      frame.config⟩

end Alone

end Sheet

end CellLedger
