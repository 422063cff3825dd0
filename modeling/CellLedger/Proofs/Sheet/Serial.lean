import CellLedger.Proofs.Sheet.Registration
import CellLedger.Proofs.Sheet.Unfaulted

/-!
Batches whose calls are interleaved, on a store without faults. They take effect one after another
in the order of their commits, and each commit answers what it would answer if its batch were the
only one ever begun (`serial_in_commit_order`), whether or not they share cells.
-/

set_option autoImplicit false

namespace CellLedger

-- A call on the sheet, which is all that happens as long as nobody else has the store.
def Event.isCall : Event → Bool
  | .exchange _ => false
  | _ => true

namespace Sheet

variable {sheet : Sheet}

def performedAlone (sheet : Sheet) (op : Operation) (begun now : Instant) : List Operation :=
  match (sheet.executeSingle op begun now).1 with
  | .ok result => if result.success then [op] else []
  | .error _ => []

/-- The operations that an event carries out: those of a batch that is committed with success, or a
single one that succeeds. -/
def performed (sheet : Sheet) : Event → List Operation
  | .call now (.commit id) =>
    match (sheet.commit id now).1, sheet.batch? id with
    | .ok result, some b => if result.success then b.operations else []
    | _, _ => []
  | .call now (.executeSingle op) => sheet.performedAlone op now (now + 1)
  | .executeSingle op begun now => sheet.performedAlone op begun now
  | _ => []

def performedBy : Sheet → List Event → List Operation
  | _, [] => []
  | sheet, e :: rest => sheet.performed e ++ performedBy (sheet.step e) rest

/-- The store holds what these operations left, and has no faults. -/
structure Performs (sheet after : Sheet) (operations : List Operation) : Prop where
  cells : after.store.cells = Operation.applyAll operations sheet.store.cells
  healthy : after.store.Healthy

theorem commit_performs (plan : sheet.store.Healthy) (sound : sheet.Sound) (id : BatchId)
    (now : Instant) :
    sheet.Performs (sheet.commit id now).2 (sheet.performed (.call now (.commit id))) := by
  rcases sheet.commit_cases id now with ⟨e, _, run⟩ | ⟨b, held, isOpen, _⟩
  · simp only [performed, run]
    exact ⟨rfl, plan⟩
  · obtain ⟨answer, cells, healthy⟩ := commit_of_healthy plan sound held isOpen now
    refine ⟨?_, healthy⟩
    rw [cells]
    simp only [performed, answer, held]
    split <;> rfl

theorem executeSingle_performs (plan : sheet.store.Healthy) (sound : sheet.Sound) (op : Operation)
    (begun now : Instant) :
    sheet.Performs (sheet.executeSingle op begun now).2 (sheet.performedAlone op begun now) := by
  cases accepted : Batch.add { id := ⟨1⟩, startedAt := begun } op sheet.config with
  | error e =>
    obtain ⟨answer, store⟩ := executeSingle_of_refused accepted now
    simp only [performedAlone, answer]
    exact ⟨congrArg Store.cells store, store ▸ plan⟩
  | ok b =>
    obtain ⟨answer, cells, healthy⟩ := executeSingle_of_healthy plan sound accepted now
    obtain ⟨_, _, _, _, same⟩ := Batch.add_eq_ok accepted
    have single : b.operations = [op] := by
      rw [same]
      rfl
    refine ⟨?_, healthy⟩
    rw [cells]
    simp only [performedAlone, answer, singleResult_answer single]
    split <;> rfl

theorem step_performs (plan : sheet.store.Healthy) (sound : sheet.Sound) {e : Event}
    (call : e.isCall = true) : sheet.Performs (sheet.step e) (sheet.performed e) := by
  have quiet {now : Instant} {c : BatchCall} (quiet : c.isQuiet = true) :
      sheet.Performs (sheet.call now c).2 [] :=
    have peeks := call_peeks_of_quiet sound now quiet
    ⟨peeks.unwritten, peeks.touches.healthy plan⟩
  cases e with
  | exchange store => simp [Event.isCall] at call
  | executeSingle op begun now => exact executeSingle_performs plan sound op begun now
  | call now c =>
    cases c with
    | commit id => exact commit_performs plan sound id now
    | executeSingle op => exact executeSingle_performs plan sound op now (now + 1)
    | _ => exact quiet rfl

theorem Reachable.after_performs (reachable : sheet.Reachable) (plan : sheet.store.Healthy)
    {events : List Event} (calls : ∀ e ∈ events, e.isCall = true) :
    sheet.Performs (sheet.after events) (sheet.performedBy events) := by
  induction events generalizing sheet with
  | nil => exact ⟨rfl, plan⟩
  | cons e rest ih =>
    have first := step_performs plan reachable.sound (calls e (by simp))
    have later := ih (reachable.step e) first.healthy fun e member => calls e (by simp [member])
    refine ⟨?_, later.healthy⟩
    rw [after_cons, later.cells, first.cells, performedBy, Operation.applyAll_append]

theorem Reachable.commit_alone (reachable : sheet.Reachable) (plan : sheet.store.Healthy)
    {id : BatchId} {b : Batch} (held : sheet.batch? id = some b) (isOpen : b.isActive = true)
    (now : Instant) :
    let alone := alone sheet.store.cells sheet.config b.operations b.startedAt
    ∃ c result, alone.batch? ⟨1⟩ = some c ∧ c.operations = b.operations ∧
      (alone.commit ⟨1⟩ now).1 = .ok result ∧ (sheet.commit id now).1 = .ok { result with id } := by
  intro alone
  obtain ⟨rfl, batch⟩ := reachable.sound id b held
  have within := reachable.within b.id b held
  obtain ⟨c, tracked, alsoOpen, operations, started, store, config⟩ :=
    alone_tracks sheet.store.cells b.startedAt batch.owned.apart within.operations
      (within.counted ▸ within.cells)
  have sound : alone.Sound := (alone_reachable _ _ _ _).sound
  have fresh : alone.store.Healthy := by
    rw [store]
    rfl
  have state : c.state = b.state :=
    (of_decide_eq_true alsoOpen).trans (of_decide_eq_true isOpen).symm
  obtain ⟨answer, _⟩ := commit_of_healthy plan reachable.sound held isOpen now
  obtain ⟨answerAlone, _⟩ := commit_of_healthy fresh sound tracked alsoOpen now
  rw [store, objections_congr config state operations started] at answerAlone
  refine ⟨c, _, tracked, operations, answerAlone, ?_⟩
  rw [answer, Batch.answer_congr operations.symm]
  rfl

theorem executeSingle_congr {other : Sheet} (plan : sheet.store.Healthy)
    (otherPlan : other.store.Healthy) (sound : sheet.Sound) (otherSound : other.Sound)
    (cells : other.store.cells = sheet.store.cells) (config : other.config = sheet.config)
    (op : Operation) (begun now : Instant) :
    (other.executeSingle op begun now).1 = (sheet.executeSingle op begun now).1 := by
  cases accepted : Batch.add { id := ⟨1⟩, startedAt := begun } op sheet.config with
  | error e =>
    have alsoRefused := accepted
    rw [← config] at alsoRefused
    rw [(executeSingle_of_refused accepted now).1, (executeSingle_of_refused alsoRefused now).1]
  | ok b =>
    have alsoAccepted := accepted
    rw [← config] at alsoAccepted
    rw [(executeSingle_of_healthy plan sound accepted now).1,
      (executeSingle_of_healthy otherPlan otherSound alsoAccepted now).1, cells,
      objections_congr config rfl rfl rfl]

theorem serial_in_commit_order {store : Store} (healthy : store.Healthy) (config : SheetConfig)
    {events : List Event} (calls : ∀ e ∈ events, e.isCall = true) :
    let start : Sheet := { store, config }
    let sheet := start.after events
    -- The store is as if the batches had been carried out one after another.
    sheet.store.cells = (Operation.executeAll (start.performedBy events) store).cells ∧
    (∀ id b, sheet.batch? id = some b → b.operations = start.accepted id events) ∧
    -- The commit that comes next answers as on a fresh sheet, and so does a single operation.
    (∀ id b now, sheet.batch? id = some b → b.isActive = true →
      let alone := Sheet.alone sheet.store.cells config b.operations b.startedAt
      ∃ c result, alone.batch? ⟨1⟩ = some c ∧ c.operations = b.operations ∧
        (alone.commit ⟨1⟩ now).1 = .ok result ∧
        (sheet.commit id now).1 = .ok { result with id }) ∧
    ∀ op begun now,
      let fresh : Sheet := { store := .ofCells sheet.store.cells, config }
      (sheet.executeSingle op begun now).1 = (fresh.executeSingle op begun now).1 := by
  intro start sheet
  have reachable : start.Reachable := .start store config
  have reached : sheet.Reachable := reachable.after events
  have performs := reachable.after_performs healthy calls
  have settings : sheet.config = config := reachable.config_after events
  refine ⟨?_, fun id b held => reachable.operations_after held, fun id b now held isOpen => ?_, ?_⟩
  · rw [Operation.cells_executeAll_of_healthy healthy]
    exact performs.cells
  · have same := reached.commit_alone performs.healthy held isOpen now
    rw [settings] at same
    exact same
  · intro op begun now fresh
    have unfaulted : fresh.store.Healthy := rfl
    have freshReachable : fresh.Reachable := .start _ config
    exact executeSingle_congr unfaulted performs.healthy freshReachable.sound reached.sound rfl
      settings op begun now

-- Both batches write the same cell, and the one that was given its operation first is still open
-- when the other one is committed.
theorem serial_in_commit_order_shared_cell :
    let events : List Event :=
      [.call 0 (.begin ∅), .call 1 (.begin ∅),
        .call 2 (.add ⟨2⟩ (.overwriteText (.single ⟨0, 0⟩) "y")),
        .call 3 (.add ⟨1⟩ (.overwriteText (.single ⟨0, 0⟩) "x")),
        .call 4 (.preview ⟨2⟩ none), .call 5 (.commit ⟨1⟩)]
    let sheet := Sheet.after { store := {} } events
    let fresh := alone sheet.store.cells {} [.overwriteText (.single ⟨0, 0⟩) "y"] 1
    (∀ e ∈ events, e.isCall = true) ∧
      sheet.store.cells =
        (Operation.executeAll [.overwriteText (.single ⟨0, 0⟩) "x"] {}).cells ∧
      ∃ result, (fresh.commit ⟨1⟩ 6).1 = .ok result ∧
        (sheet.commit ⟨2⟩ 6).1 = .ok { result with id := ⟨2⟩ } := by
  intro events sheet fresh
  have calls : ∀ e ∈ events, e.isCall = true := by simp [events, Event.isCall]
  have unfaulted : ({} : Store).Healthy := rfl
  obtain ⟨cells, _, commits, _⟩ := serial_in_commit_order unfaulted {} calls
  have held : sheet.batch? ⟨2⟩ = some _ := rfl
  obtain ⟨_, result, _, _, answerAlone, answer⟩ := commits ⟨2⟩ _ 6 held rfl
  exact ⟨calls, cells, result, answerAlone, answer⟩

end Sheet

end CellLedger
