import CellLedger.Proofs.Sheet.Contents

/-!
Commits of which no access is refused. What one answers, and what it leaves, depends only on the
registered operations, the time they were open, the settings and the contents at that moment
(`commit_of_unhindered`), whatever number the batch has. On a store without faults every commit is
such a commit (`commit_of_healthy`).
-/

set_option autoImplicit false

namespace CellLedger

def Operation.reports : List Operation → Cells → List OperationResult
  | [], _ => []
  | op :: rest, cells => op.report cells :: reports rest (op.apply cells)

namespace Batch

theorem runFrom_of_unhindered (b : Batch) (autoRollback : Bool) (index : Nat)
    (operations : List Operation) {s : Store}
    (clear : s.Unhindered (b.runFrom autoRollback index operations s).2) :
    (b.runFrom autoRollback index operations s).1 =
        { results := Operation.reports operations s.cells } ∧
      (b.runFrom autoRollback index operations s).2.cells =
        Operation.applyAll operations s.cells := by
  induction operations generalizing index s with
  | nil => exact ⟨rfl, rfl⟩
  | cons op rest ih =>
    obtain ⟨here, later⟩ := clear.split (op.execute_touches s)
      (runFrom_after (fun i t => b.runFrom_touches autoRollback i rest t) index s)
    obtain ⟨u, run, cells⟩ := Operation.execute_of_unhindered here
    simp only [runFrom, run] at later ⊢
    obtain ⟨results, left⟩ := ih (index + 1) later
    rw [cells] at results left
    exact ⟨by rw [results]; rfl, left⟩

/-- What a commit answers that meets these problems, or none, and no fault. -/
def answer (b : Batch) (contents : Cells) : List String → BatchResult
  | [] => .committed b { results := Operation.reports b.operations contents }
  | problems => .rejected b problems

theorem answer_success (b : Batch) (contents : Cells) (problems : List String) :
    (b.answer contents problems).success = problems.isEmpty := by
  cases problems <;> rfl

theorem answer_congr {b c : Batch} (operations : c.operations = b.operations) (contents : Cells)
    (problems : List String) :
    c.answer contents problems = { b.answer contents problems with id := c.id } := by
  cases problems <;> simp [answer, BatchResult.committed, BatchResult.rejected, operations]

theorem problems_congr {b c : Batch} (state : c.state = b.state)
    (operations : c.operations = b.operations) (startedAt : c.startedAt = b.startedAt)
    (config : SheetConfig) (now : Instant) : c.problems config now = b.problems config now := by
  simp [problems, isActive, state, operations, startedAt]

theorem problems_eq_nil_iff {b : Batch} {config : SheetConfig} {now : Instant} :
    b.problems config now = [] ↔
      b.isActive = true ∧ b.operations ≠ [] ∧
        ¬ config.timeout < Duration.between b.startedAt now ∧
        ∀ op ∈ b.operations, op.problem? = none := by
  have numbered : (∀ op i, (op, i) ∈ b.operations.zipIdx → op.problem? = none) ↔
      ∀ op ∈ b.operations, op.problem? = none := by
    constructor
    · intro none op listed
      obtain ⟨i, found⟩ := List.getElem?_of_mem listed
      exact none op i (List.mem_zipIdx_iff_getElem?.2 found)
    · intro none op i listed
      exact none op (List.fst_mem_of_mem_zipIdx listed)
  simp only [problems, List.append_eq_nil_iff, List.filterMap_eq_nil_iff, Prod.forall,
    Option.map_eq_none_iff, numbered, and_assoc]
  simp

-- Whether an operation is registered has nothing to do with the number of the batch.
theorem add_renumbered {b : Batch} (isOpen : b.isActive = true) (id : BatchId) (op : Operation)
    (config : SheetConfig) :
    { b with id }.add op config = (b.add op config).map fun c => { c with id } := by
  have alsoOpen : { b with id }.isActive = true := isOpen
  have shared : { b with id }.sharedCell? op.selection = b.sharedCell? op.selection := rfl
  have count : { b with id }.affectedCount = b.affectedCount := rfl
  simp only [add, isOpen, alsoOpen, shared, count, Bool.not_true, Bool.false_eq_true, if_false]
  split
  · rfl
  · split
    · rfl
    · split <;> rfl

end Batch

namespace Sheet

variable {sheet : Sheet} {b : Batch} {id : BatchId}

theorem rollBackAfter_touches (sheet : Sheet) (b : Batch) (run : Run) :
    sheet.store.Touches (sheet.rollBackAfter b run).2.store (· ∈ b.captured.keys) := by
  have back := restore_touches b.id b.captured sheet.store
  simp only [rollBackAfter, putBack]
  generalize restore b.id b.captured sheet.store = outcome at back ⊢
  obtain ⟨reply, t⟩ := outcome
  cases reply <;> exact back

theorem settle_touches (sheet : Sheet) (b : Batch) (run : Run) :
    sheet.store.Touches (sheet.settle b run).2.store (· ∈ b.captured.keys) := by
  simp only [settle]
  split
  · exact sheet.rollBackAfter_touches b run
  · exact .refl _ _
  · exact .refl _ _

theorem carryOut_after_run {c : Batch} {n : Nat} {s t : Store} {run : Run}
    (capture : b.capture sheet.store = (.ok n, c, s))
    (attempt : c.run sheet.config.autoRollback s = (run, t)) :
    t.Touches (sheet.carryOut b).2.store (· ∈ c.captured.keys) := by
  rw [carryOut_of_run capture attempt]
  exact settle_touches { sheet with store := t, stats := sheet.stats.recordRun run } c run

-- Whatever the capture answers, the commit goes on from where it left the store.
theorem carryOut_after_capture (sheet : Sheet) (b : Batch) :
    (b.capture sheet.store).2.2.Touches (sheet.carryOut b).2.store fun _ => True := by
  generalize capture : b.capture sheet.store = outcome
  obtain ⟨reply, c, s⟩ := outcome
  cases reply with
  | error e =>
    simp only [carryOut, capture]
    exact (rollBackAfter_touches { sheet with store := s } c _).mono fun _ _ => trivial
  | ok n =>
    have runs := c.runFrom_touches sheet.config.autoRollback 0 c.operations s
    exact (runs.mono fun _ _ => trivial).trans
      ((carryOut_after_run capture rfl).mono fun _ _ => trivial)

theorem carryOut_touches (sheet : Sheet) (b : Batch) :
    sheet.store.Touches (sheet.carryOut b).2.store fun _ => True :=
  ((b.capture_touches sheet.store).mono fun _ _ => trivial).trans (sheet.carryOut_after_capture b)

theorem carryOut_of_unhindered (fresh : b.captured = ∅)
    (clear : sheet.store.Unhindered (sheet.carryOut b).2.store) :
    (sheet.carryOut b).1 = .ok (b.answer sheet.store.cells []) ∧
      (sheet.carryOut b).2.store.cells = Operation.applyAll b.operations sheet.store.cells := by
  obtain ⟨here, later⟩ := clear.split (b.capture_touches sheet.store)
    (sheet.carryOut_after_capture b)
  rcases Batch.capture_cases fresh sheet.store with
    ⟨_, _, _, _, _, _, capture, _, refuses⟩ | ⟨s, capture, same, _⟩
  · rw [capture] at here
    exact absurd here refuses.not_unhindered
  · let captured := { b with captured := sheet.store.cells.snapshot b.owners.keys }
    let attempt := captured.run sheet.config.autoRollback s
    rw [capture] at later
    have runs : s.Unhindered attempt.2 :=
      (later.split (captured.runFrom_touches sheet.config.autoRollback 0 b.operations s)
        (carryOut_after_run capture rfl)).1
    obtain ⟨results, left⟩ : attempt.1 = { results := Operation.reports b.operations s.cells } ∧
        attempt.2.cells = Operation.applyAll b.operations s.cells :=
      captured.runFrom_of_unhindered sheet.config.autoRollback 0 b.operations runs
    rw [same] at results left
    rw [carryOut_of_run capture (Prod.ext results rfl)]
    exact ⟨rfl, left⟩

theorem commit_of_unhindered (sound : sheet.Sound) (held : sheet.batch? id = some b)
    (isOpen : b.isActive = true) {now : Instant}
    (clear : sheet.store.Unhindered (sheet.commit id now).2.store) :
    (sheet.commit id now).1 = .ok (b.answer sheet.store.cells (sheet.objections b now)) ∧
      (sheet.commit id now).2.store.cells =
        (if (b.answer sheet.store.cells (sheet.objections b now)).success then
          Operation.applyAll b.operations sheet.store.cells
        else sheet.store.cells) := by
  rw [Batch.answer_success]
  rcases commit_of_open held isOpen now with ⟨problems, run⟩ | ⟨none, run⟩
  · rw [run]
    cases objections : sheet.objections b now with
    | nil => exact absurd objections problems
    | cons first rest => exact ⟨rfl, rfl⟩
  · rw [run] at clear ⊢
    rw [none]
    exact carryOut_of_unhindered ((sound id b held).2.fresh isOpen) clear

theorem commit_touches (held : sheet.batch? id = some b) (isOpen : b.isActive = true)
    (now : Instant) : sheet.store.Touches (sheet.commit id now).2.store fun _ => True := by
  rcases commit_of_open held isOpen now with ⟨_, run⟩ | ⟨_, run⟩
  · rw [run]
    exact .refl _ _
  · rw [run]
    exact sheet.carryOut_touches b

theorem commit_of_healthy (plan : sheet.store.Healthy) (sound : sheet.Sound)
    (held : sheet.batch? id = some b) (isOpen : b.isActive = true) (now : Instant) :
    (sheet.commit id now).1 = .ok (b.answer sheet.store.cells (sheet.objections b now)) ∧
      (sheet.commit id now).2.store.cells =
        (if (b.answer sheet.store.cells (sheet.objections b now)).success then
          Operation.applyAll b.operations sheet.store.cells
        else sheet.store.cells) ∧
      (sheet.commit id now).2.store.Healthy := by
  have touches := commit_touches held isOpen now
  obtain ⟨answer, cells⟩ := commit_of_unhindered sound held isOpen (touches.unhindered plan)
  exact ⟨answer, cells, touches.healthy plan⟩

theorem objections_congr {other : Sheet} {c : Batch} (config : other.config = sheet.config)
    (state : c.state = b.state) (operations : c.operations = b.operations)
    (startedAt : c.startedAt = b.startedAt) (now : Instant) :
    other.objections c now = sheet.objections b now := by
  rw [objections, objections, config, Batch.problems_congr state operations startedAt]

theorem singleResult_answer {op : Operation} (single : b.operations = [op]) (contents : Cells)
    (problems : List String) :
    (singleResult op.kind (b.answer contents problems)).success = problems.isEmpty := by
  cases problems with
  | nil => simp [Batch.answer, singleResult, BatchResult.committed, single, Operation.reports]
  | cons => rfl

section Single

variable {op : Operation} {begun : Instant}

theorem add_begin_renumbered (sheet : Sheet) (op : Operation) (begun : Instant) :
    (sheet.begin ∅ begun).2.add ⟨sheet.nextId⟩ op =
      match Batch.add { id := ⟨1⟩, startedAt := begun } op sheet.config with
      | .error e => (.error e, (sheet.begin ∅ begun).2)
      | .ok b => (.ok (), (sheet.begin ∅ begun).2.putBatch { b with id := ⟨sheet.nextId⟩ }) := by
  have renumbered := Batch.add_renumbered (b := { id := ⟨1⟩, startedAt := begun }) rfl
    ⟨sheet.nextId⟩ op sheet.config
  rw [add_begin, renumbered]
  cases Batch.add { id := ⟨1⟩, startedAt := begun } op sheet.config <;> rfl

theorem executeSingle_of_refused {e : BatchError}
    (refused : Batch.add { id := ⟨1⟩, startedAt := begun } op sheet.config = .error e)
    (now : Instant) :
    (sheet.executeSingle op begun now).1 = .error e ∧
      (sheet.executeSingle op begun now).2.store = sheet.store := by
  have step := sheet.add_begin_renumbered op begun
  rw [refused] at step
  rcases sheet.executeSingle_cases op begun now with ⟨_, t, stepToo, run⟩ | ⟨t, stepToo, _⟩
  · rw [step] at stepToo
    cases stepToo
    exact run ▸ ⟨rfl, rfl⟩
  · simp [step] at stepToo

theorem executeSingle_of_healthy (plan : sheet.store.Healthy) (sound : sheet.Sound)
    (accepted : Batch.add { id := ⟨1⟩, startedAt := begun } op sheet.config = .ok b)
    (now : Instant) :
    (sheet.executeSingle op begun now).1 =
        .ok (singleResult op.kind (b.answer sheet.store.cells (sheet.objections b now))) ∧
      (sheet.executeSingle op begun now).2.store.cells =
        (if (sheet.objections b now).isEmpty then op.apply sheet.store.cells
        else sheet.store.cells) ∧
      (sheet.executeSingle op begun now).2.store.Healthy := by
  have step := sheet.add_begin_renumbered op begun
  have added := (sound.begin ∅ begun).add ⟨sheet.nextId⟩ op
  rw [accepted] at step
  rw [step] at added
  obtain ⟨_, _, _, _, same⟩ := Batch.add_eq_ok accepted
  -- The batch that is committed differs from `b` in its number only.
  let batch : Batch := { b with id := ⟨sheet.nextId⟩ }
  let t := (sheet.begin ∅ begun).2.putBatch batch
  have held : t.batch? ⟨sheet.nextId⟩ = some batch :=
    (batch?_putBatch _ batch _).trans (if_pos rfl)
  have isOpen : batch.isActive = true := by
    simp only [batch, same]
    rfl
  have applied : Operation.applyAll batch.operations t.store.cells = op.apply t.store.cells := by
    simp only [batch, same]
    rfl
  have objections : t.objections batch now = sheet.objections b now :=
    objections_congr rfl rfl rfl rfl now
  have untouched : t.store.Healthy := plan
  obtain ⟨answer, cells, healthy⟩ := commit_of_healthy untouched added held isOpen now
  rw [objections, Batch.answer_congr (b := b) (c := batch) rfl] at answer
  rw [objections, Batch.answer_success, applied] at cells
  rcases sheet.executeSingle_cases op begun now with ⟨_, _, refused, _⟩ | ⟨_, stepToo, run⟩
  · simp [step] at refused
  rw [step] at stepToo
  obtain ⟨_, rfl⟩ := Prod.mk.inj stepToo
  rw [run]
  exact ⟨by rw [answer]; rfl, cells, healthy⟩

end Single

end Sheet

end CellLedger
