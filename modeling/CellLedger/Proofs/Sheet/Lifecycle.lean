import CellLedger.Proofs.Sheet.Steps

/-!
The life of a batch: it gets a number that no other batch ever has, leaves the open state at most
once, stays as it is from then on, and is unknown for good once it is swept away (`lifecycle`).
-/

set_option autoImplicit false

namespace CellLedger

namespace Sheet

-- The numbers given out by a run, in order.
def issued : Sheet → List Event → List BatchId
  | _, [] => []
  | sheet, e :: rest => (sheet.issue? e).toList ++ issued (sheet.step e) rest

variable {sheet : Sheet} {id : BatchId} {b c : Batch} {e : Event}

theorem issue?_eq_nextId {new : BatchId} (issue : sheet.issue? e = some new) :
    new = ⟨sheet.nextId⟩ := by
  cases e with
  | exchange store => simp [issue?] at issue
  | executeSingle op begun now => exact (Option.some.inj issue).symm
  | call now call =>
    cases call <;> first
      | exact (Option.some.inj issue).symm
      | simp [issue?] at issue

theorem Reachable.issued_eq (reachable : sheet.Reachable) (events : List Event) :
    sheet.issued events =
        (List.range' sheet.nextId (sheet.issued events).length).map BatchId.mk ∧
      (sheet.after events).nextId = sheet.nextId + (sheet.issued events).length := by
  induction events generalizing sheet with
  | nil => exact ⟨rfl, rfl⟩
  | cons e rest ih =>
    obtain ⟨later, last⟩ := ih (reachable.step e)
    obtain ⟨_, next⟩ := step_frame reachable.sound e
    rw [next] at later last
    simp only [issued, after_cons, List.length_append]
    cases issue : sheet.issue? e with
    | none =>
      simp only [issue, Option.toList_none, List.length_nil, Nat.add_zero] at later last
      simp only [Option.toList_none, List.nil_append, List.length_nil, Nat.zero_add]
      exact ⟨later, last⟩
    | some new =>
      have number := issue?_eq_nextId issue
      simp only [issue, Option.toList_some, List.length_singleton] at later last
      simp only [Option.toList_some, List.singleton_append, List.length_singleton]
      refine ⟨?_, by omega⟩
      rw [Nat.add_comm 1, List.range'_succ, List.map_cons, ← later, number]

section Step

variable {found : Option Batch}

theorem Becomes.of_closed (becomes : Becomes sheet id e (some b) found)
    (closed : b.isActive = false) : found = if e.isSweep then none else some b := by
  cases becomes with
  | kept unswept =>
    have quiet : e.isSweep = false := by
      by_contra sweep
      simp [unswept (by simpa using sweep)] at closed
    simp [quiet]
  | grown accepted => simp [(Batch.add_eq_ok accepted).1] at closed
  | closed isOpen => simp [isOpen] at closed
  | swept sweep => simp [sweep]

theorem Becomes.of_unknown (becomes : Becomes sheet id e none found)
    (given : id.value < sheet.nextId) : found = none := by
  cases becomes with
  | unknown => rfl
  | begun new => simp [new] at given

theorem Becomes.state (becomes : Becomes sheet id e (some b) (some c)) :
    c.state = b.state ∨ b.state = .active := by
  cases becomes with
  | kept => exact .inl rfl
  | grown accepted => exact .inr (of_decide_eq_true (Batch.add_eq_ok accepted).1)
  | closed isOpen => exact .inr (of_decide_eq_true isOpen)

end Step

theorem Reachable.unknown_after (reachable : sheet.Reachable) (given : id.value < sheet.nextId)
    (unknown : sheet.batch? id = none) (events : List Event) :
    (sheet.after events).batch? id = none := by
  induction events generalizing sheet with
  | nil => exact unknown
  | cons e rest ih =>
    have becomes := reachable.becomes e id
    rw [unknown] at becomes
    obtain ⟨_, next⟩ := step_frame reachable.sound e
    exact ih (reachable.step e) (by omega) (becomes.of_unknown given)

-- A number that was given out is not given out again.
theorem Reachable.gone_after (reachable : sheet.Reachable) (held : sheet.batch? id = some b)
    (gone : (sheet.step e).batch? id = none) (rest : List Event) :
    ((sheet.step e).after rest).batch? id = none := by
  have given := reachable.numbered id b held
  obtain ⟨_, next⟩ := step_frame reachable.sound e
  exact (reachable.step e).unknown_after (by omega) gone rest

theorem Reachable.closed_after (reachable : sheet.Reachable) (held : sheet.batch? id = some b)
    (closed : b.isActive = false) (events : List Event) :
    (sheet.after events).batch? id = if events.any Event.isSweep then none else some b := by
  induction events generalizing sheet with
  | nil => exact held
  | cons e rest ih =>
    have becomes := reachable.becomes e id
    rw [held] at becomes
    have left := becomes.of_closed closed
    by_cases sweep : e.isSweep = true
    · have gone := reachable.gone_after held (by simpa [sweep] using left) rest
      simp [sweep, gone]
    · simp only [sweep] at left
      simpa [sweep] using ih (reachable.step e) left

theorem Reachable.state_after (reachable : sheet.Reachable) (held : sheet.batch? id = some b)
    {events : List Event} (later : (sheet.after events).batch? id = some c) :
    c.state = b.state ∨ b.state = .active := by
  induction events generalizing sheet b with
  | nil =>
    rw [after_nil, held] at later
    exact .inl (congrArg Batch.state (Option.some.inj later).symm)
  | cons e rest ih =>
    have becomes := reachable.becomes e id
    rw [held] at becomes
    cases next : (sheet.step e).batch? id with
    | none => simp [reachable.gone_after held next rest] at later
    | some m =>
      rw [next] at becomes
      rcases ih (reachable.step e) next later with same | active
      · rw [same]
        exact becomes.state
      · rcases becomes.state with same | active
        · exact .inr (same ▸ active)
        · exact .inr active

theorem sweep_count (sheet : Sheet) :
    sheet.sweep.1 = sheet.batches.values.countP fun b => !b.isActive := by
  have parts := List.length_eq_countP_add_countP
    (fun entry : BatchId × Batch => entry.2.isActive) (l := sheet.batches.entries)
  simp only [sweep, SortedMap.size, SortedMap.filter, SortedMap.values, List.countP_map,
    ← List.countP_eq_length_filter]
  simp only [Function.comp_def, decide_not, Bool.decide_eq_true] at parts ⊢
  omega

theorem batch?_sweep (sheet : Sheet) (id : BatchId) :
    sheet.sweep.2.batch? id = (sheet.batch? id).filter (·.isActive) :=
  sheet.batches.get?_filter _ id

theorem mem_activeBatches :
    id ∈ sheet.activeBatches ↔ ∃ b, sheet.batch? id = some b ∧ b.isActive = true := by
  rw [activeBatches, SortedMap.mem_keys_iff]
  simp only [SortedMap.get?_filter, Option.filter_eq_some_iff]
  rfl

theorem findActive_of_closed (sound : sheet.Sound) (held : sheet.batch? id = some b)
    (closed : b.isActive = false) : sheet.findActive id = .error (.inactive id b.state) := by
  simp [findActive, find, held, bind, Except.bind, Batch.ensureActive, closed, (sound id b held).1]

theorem findActive_of_unknown (unknown : sheet.batch? id = none) :
    sheet.findActive id = .error (.notFound id) := by
  simp [findActive, find, unknown, bind, Except.bind]

theorem add_refused {e : BatchError} (refused : sheet.findActive id = .error e) (op : Operation) :
    sheet.add id op = (.error e, sheet) := by
  cases held : sheet.batch? id with
  | none =>
    rw [findActive_of_unknown held] at refused
    cases refused
    simp only [add, find, held]
  | some b =>
    have closed := closed_of_refused refused held
    simp only [findActive, find, held, bind, Except.bind, Batch.ensureActive, closed] at refused
    cases refused
    simp [add, find, held, Batch.add, closed]

-- A call on a batch that is not open is refused before it does anything.
theorem call_refused {e : BatchError} (refused : sheet.findActive id = .error e) (now : Instant)
    {call : BatchCall} (works : call.worksOn? = some id) :
    sheet.call now call = (.error e, sheet) := by
  cases call <;> cases works <;>
    simp only [Sheet.call, add_refused refused, preview, commit, rollBack, cancel, refused] <;> rfl

theorem lifecycle (store : Store) (config : SheetConfig) (earlier later : List Event) :
    let start : Sheet := { store, config }
    let sheet := start.after earlier
    -- Numbers count up from one and are never given out again.
    start.issued earlier = (List.range' 1 (start.issued earlier).length).map BatchId.mk ∧
    (∀ id ∈ start.issued earlier, sheet.batch? id = none → (sheet.after later).batch? id = none) ∧
    -- A batch leaves the open state only, and once it has, only a sweep touches it.
    (∀ id b c, sheet.batch? id = some b → (sheet.after later).batch? id = some c →
      c.state = b.state ∨ b.state = .active ∧ c.state ≠ .active) ∧
    (∀ id b, sheet.batch? id = some b → b.state ≠ .active →
      (sheet.after later).batch? id = if later.any Event.isSweep then none else some b) ∧
    (sheet.sweep.1 = sheet.batches.values.countP fun b => !b.isActive) ∧
    (∀ id, sheet.sweep.2.batch? id = (sheet.batch? id).filter (·.isActive)) ∧
    sheet.activeBatches.Pairwise (· < ·) ∧
    (∀ id, id ∈ sheet.activeBatches ↔ ∃ b, sheet.batch? id = some b ∧ b.state = .active) ∧
    ∀ now call id, call.worksOn? = some id →
      (∀ b, sheet.batch? id = some b → b.state ≠ .active →
        sheet.call now call = (.error (.inactive id b.state), sheet)) ∧
      (sheet.batch? id = none → sheet.call now call = (.error (.notFound id), sheet)) := by
  intro start sheet
  have reachable : start.Reachable := .start store config
  have reached : sheet.Reachable := reachable.after earlier
  have closedOf {b : Batch} (left : b.state ≠ .active) : b.isActive = false := by
    simpa [Batch.isActive] using left
  obtain ⟨numbers, next⟩ := reachable.issued_eq earlier
  refine ⟨numbers, fun id member unknown => ?_, fun id b c held heldLater => ?_,
    fun id b held left => reached.closed_after held (closedOf left) later, sheet.sweep_count,
    sheet.batch?_sweep, SortedMap.keys_ascending _, fun id => ?_, fun now call id works =>
    ⟨fun b held left => call_refused (findActive_of_closed reached.sound held (closedOf left)) now
      works, fun unknown => call_refused (findActive_of_unknown unknown) now works⟩⟩
  · refine reached.unknown_after ?_ unknown later
    rw [numbers, List.mem_map] at member
    obtain ⟨n, member, rfl⟩ := member
    have bound := List.mem_range'_1.1 member
    change n < sheet.nextId
    rw [next]
    exact bound.2
  · by_cases same : c.state = b.state
    · exact .inl same
    · have active := (reached.state_after held heldLater).resolve_left same
      exact .inr ⟨active, fun still => same (still.trans active.symm)⟩
  · rw [mem_activeBatches]
    simp [Batch.isActive]

end Sheet

end CellLedger
