import CellLedger.Proofs.Sheet.Reachable

/-!
Runs of a sheet: any events in any order (`Sheet.after`). What one event can make of the batch filed
under a number is told once, by `step_becomes`; what whole runs do to batches follows from it.
-/

set_option autoImplicit false

namespace CellLedger

inductive Event where
  | call (now : Instant) (c : BatchCall)
  -- The clock is read twice, and any time may pass in between.
  | executeSingle (op : Operation) (begun now : Instant)
  -- Someone else writes the store, or arms faults.
  | exchange (store : Store)

/-- The batch that a call works on, which must be open. -/
def BatchCall.worksOn? : BatchCall → Option BatchId
  | .add id _ | .preview id _ | .commit id | .rollBack id | .cancel id => some id
  | _ => none

def Event.isSweep : Event → Bool
  | .call _ .sweep => true
  | _ => false

namespace Sheet

def step (sheet : Sheet) : Event → Sheet
  | .call now c => (sheet.call now c).2
  | .executeSingle op begun now => (sheet.executeSingle op begun now).2
  | .exchange store => { sheet with store }

def after : Sheet → List Event → Sheet
  | sheet, [] => sheet
  | sheet, e :: rest => (sheet.step e).after rest

@[simp] theorem after_nil (sheet : Sheet) : sheet.after [] = sheet := rfl

@[simp] theorem after_cons (sheet : Sheet) (e : Event) (rest : List Event) :
    sheet.after (e :: rest) = (sheet.step e).after rest := rfl

theorem after_append (sheet : Sheet) (events more : List Event) :
    sheet.after (events ++ more) = (sheet.after events).after more := by
  induction events generalizing sheet with
  | nil => rfl
  | cons e rest ih => exact ih (sheet.step e)

theorem Reachable.step {sheet : Sheet} (reachable : sheet.Reachable) (e : Event) :
    (sheet.step e).Reachable := by
  cases e with
  | call now c => exact reachable.call now c
  | executeSingle op begun now => exact reachable.executeSingle op begun now
  | exchange store => exact reachable.exchange store

theorem Reachable.after {sheet : Sheet} (reachable : sheet.Reachable) (events : List Event) :
    (sheet.after events).Reachable := by
  induction events generalizing sheet with
  | nil => exact reachable
  | cons e rest ih => exact ih (reachable.step e)

theorem Reachable.invariant {P : Sheet → Prop} (start : ∀ store config, P { store, config })
    (step : ∀ sheet : Sheet, sheet.Reachable → P sheet → ∀ e, P (sheet.step e)) {sheet : Sheet}
    (reachable : sheet.Reachable) : P sheet := by
  induction reachable with
  | start store config => exact start store config
  | call reached now c ih => exact step _ reached ih (.call now c)
  | executeSingle reached op begun now ih => exact step _ reached ih (.executeSingle op begun now)
  | exchange reached store ih => exact step _ reached ih (.exchange store)

/-- How an event closes an open batch, with these contents captured and in this state. -/
inductive Closes (sheet : Sheet) (b : Batch) :
    Event → SortedMap Address (Option Value) → BatchState → Prop
  | cancelled (now : Instant) : Closes sheet b (.call now (.cancel b.id)) b.captured .cancelled
  | rolledBack (now : Instant) : Closes sheet b (.call now (.rollBack b.id)) b.captured .rolledBack
  | committed (now : Instant) :
      Closes sheet b (.call now (.commit b.id)) (sheet.store.cells.snapshot b.owners.keys)
        .committed
  | givenUp (now : Instant) {read : List Address} (first : read <+: b.owners.keys) :
      Closes sheet b (.call now (.commit b.id)) (sheet.store.cells.snapshot read) .rolledBack

/-- What an event makes of what is filed under a number. -/
inductive Becomes (sheet : Sheet) (id : BatchId) : Event → Option Batch → Option Batch → Prop
  | unknown {e : Event} : Becomes sheet id e none none
  | begun {now : Instant} {metadata : Metadata} (new : id = ⟨sheet.nextId⟩) :
      Becomes sheet id (.call now (.begin metadata)) none (some { id, startedAt := now, metadata })
  | kept {e : Event} {b : Batch} (unswept : e.isSweep = true → b.isActive = true) :
      Becomes sheet id e (some b) (some b)
  | grown {now : Instant} {b c : Batch} {op : Operation}
      (accepted : b.add op sheet.config = .ok c) :
      Becomes sheet id (.call now (.add id op)) (some b) (some c)
  | closed {e : Event} {b : Batch} {captured : SortedMap Address (Option Value)}
      {state : BatchState} (isOpen : b.isActive = true) (number : b.id = id)
      (closes : Closes sheet b e captured state) :
      Becomes sheet id e (some b) (some { b with captured, state })
  | swept {e : Event} {b : Batch} (sweep : e.isSweep = true) (closed : b.isActive = false) :
      Becomes sheet id e (some b) none

/-- Every tracked batch bears a number that was given out. -/
def Numbered (sheet : Sheet) : Prop := ∀ id b, sheet.batch? id = some b → id.value < sheet.nextId

section Becomes

variable {sheet after : Sheet} {e : Event} {b c : Batch} {id : BatchId}

theorem becomes_self (sheet : Sheet) (id : BatchId) (quiet : e.isSweep = false)
    (same : after.batch? id = sheet.batch? id) :
    Becomes sheet id e (sheet.batch? id) (after.batch? id) := by
  rw [same]
  cases sheet.batch? id with
  | none => exact .unknown
  | some b => exact .kept (by simp [quiet])

theorem becomes_putBatch (quiet : e.isSweep = false) (held : sheet.batch? c.id = some b)
    (here : Becomes sheet c.id e (some b) (some c))
    (batches : after.batches = (sheet.putBatch c).batches) (id : BatchId) :
    Becomes sheet id e (sheet.batch? id) (after.batch? id) := by
  have found : after.batch? id = if c.id = id then some c else sheet.batch? id := by
    rw [batch?, batches]
    exact sheet.batch?_putBatch c id
  by_cases same : c.id = id
  · subst same
    rw [found, if_pos rfl, held]
    exact here
  · exact becomes_self sheet id quiet (by rw [found, if_neg same])

theorem untracked_of_numbered (numbered : sheet.Numbered) : sheet.batch? ⟨sheet.nextId⟩ = none := by
  refine Option.eq_none_iff_forall_ne_some.2 fun b held => ?_
  exact Nat.lt_irrefl _ (numbered _ b held)

theorem becomes_begin (numbered : sheet.Numbered) (metadata : Metadata) (now : Instant)
    (id : BatchId) :
    Becomes sheet id (.call now (.begin metadata)) (sheet.batch? id)
      ((sheet.begin metadata now).2.batch? id) := by
  have found := sheet.batch?_putBatch { id := ⟨sheet.nextId⟩, startedAt := now, metadata } id
  by_cases new : ⟨sheet.nextId⟩ = id
  · subst new
    rw [if_pos rfl] at found
    rw [untracked_of_numbered numbered]
    exact found ▸ .begun rfl
  · exact becomes_self sheet id rfl (found.trans (if_neg new))

theorem becomes_add (sound : sheet.Sound) (target : BatchId) (op : Operation) (now : Instant)
    (id : BatchId) :
    Becomes sheet id (.call now (.add target op)) (sheet.batch? id)
      ((sheet.add target op).2.batch? id) := by
  rcases sheet.add_cases target op with ⟨_, run⟩ | ⟨b, c, held, accepted, run⟩
  · exact becomes_self sheet id rfl (by rw [run])
  · obtain rfl : c.id = target := (Batch.id_of_add accepted).trans (sound target b held).1
    exact becomes_putBatch rfl held (.grown accepted) (by rw [run]) id

theorem becomes_close (quiet : e.isSweep = false) (sound : sheet.Sound)
    (held : sheet.batch? id = some b) (isOpen : b.isActive = true)
    {captured : SortedMap Address (Option Value)} {state : BatchState}
    (closes : Closes sheet b e captured state)
    (batches : after.batches = (sheet.putBatch { b with captured, state }).batches)
    (other : BatchId) : Becomes sheet other e (sheet.batch? other) (after.batch? other) := by
  obtain rfl := (sound id b held).1
  exact becomes_putBatch (c := { b with captured, state }) quiet held
    (.closed isOpen rfl closes) batches other

theorem becomes_cancel (sound : sheet.Sound) (target : BatchId) (now : Instant) (id : BatchId) :
    Becomes sheet id (.call now (.cancel target)) (sheet.batch? id)
      ((sheet.cancel target).2.batch? id) := by
  cases found : sheet.findActive target with
  | error e => exact becomes_self sheet id rfl (by simp only [cancel, found])
  | ok b =>
    obtain ⟨held, isOpen⟩ := findActive_eq_ok.1 found
    obtain rfl := (sound target b held).1
    exact becomes_close rfl sound held isOpen (.cancelled now) (by simp only [cancel, found]) id

theorem becomes_rollBack (sound : sheet.Sound) (target : BatchId) (now : Instant) (id : BatchId) :
    Becomes sheet id (.call now (.rollBack target)) (sheet.batch? id)
      ((sheet.rollBack target).2.batch? id) := by
  cases found : sheet.findActive target with
  | error e => exact becomes_self sheet id rfl (by simp only [rollBack, found])
  | ok b =>
    obtain ⟨held, isOpen⟩ := findActive_eq_ok.1 found
    obtain rfl := (sound target b held).1
    refine becomes_close rfl sound held isOpen (.rolledBack now) ?_ id
    simp only [rollBack, found, putBack]
    split <;> rfl

theorem Setback.closes {run : Run} {captured : SortedMap Address (Option Value)} {s : Store}
    {stats : Stats} (setback : Setback sheet b run captured s stats) (fresh : b.captured = ∅)
    (now : Instant) : Closes sheet b (.call now (.commit b.id)) captured .rolledBack := by
  cases setback with
  | uncaptured capture =>
    obtain ⟨read, first, rfl⟩ := Batch.captured_of_capture_error fresh capture
    exact .givenUp now first
  | abandoned capture =>
    rw [Batch.captured_of_capture_ok fresh capture]
    exact .givenUp now (List.prefix_refl _)

theorem CarriedOut.closes {outcome : Except BatchError BatchResult × Sheet}
    (carriedOut : CarriedOut sheet b outcome) (fresh : b.captured = ∅) (now : Instant) :
    ∃ captured state, Closes sheet b (.call now (.commit b.id)) captured state ∧
      outcome.2.batches = (sheet.putBatch { b with captured, state }).batches := by
  cases carriedOut with
  | rolledBack setback => exact ⟨_, _, setback.closes fresh now, rfl⟩
  | unrestored setback => exact ⟨_, _, setback.closes fresh now, rfl⟩
  | stuck capture =>
    rw [Batch.captured_of_capture_ok fresh capture]
    exact ⟨_, _, .committed now, rfl⟩
  | finished capture =>
    rw [Batch.captured_of_capture_ok fresh capture]
    exact ⟨_, _, .committed now, rfl⟩

theorem becomes_commit (sound : sheet.Sound) (target : BatchId) (now : Instant) (id : BatchId) :
    Becomes sheet id (.call now (.commit target)) (sheet.batch? id)
      ((sheet.commit target now).2.batch? id) := by
  rcases sheet.commit_cases target now with
    ⟨e, _, run⟩ | ⟨b, held, isOpen, ⟨_, run⟩ | ⟨_, run⟩⟩
  · exact becomes_self sheet id rfl (by rw [run])
  · exact becomes_self sheet id rfl (by rw [run])
  · obtain ⟨number, batch⟩ := sound target b held
    subst number
    obtain ⟨captured, state, closes, batches⟩ :=
      (sheet.carryOut_carriedOut batch isOpen).closes (batch.fresh isOpen) now
    exact becomes_close rfl sound held isOpen closes (by rw [run, batches]) id

theorem becomes_sweep (sheet : Sheet) (now : Instant) (id : BatchId) :
    Becomes sheet id (.call now .sweep) (sheet.batch? id) (sheet.sweep.2.batch? id) := by
  have found : sheet.sweep.2.batch? id = (sheet.batch? id).filter (·.isActive) :=
    sheet.batches.get?_filter _ id
  rw [found]
  cases sheet.batch? id with
  | none => exact .unknown
  | some b =>
    cases isOpen : b.isActive with
    | true =>
      rw [Option.filter_some, if_pos isOpen]
      exact .kept fun _ => isOpen
    | false =>
      rw [Option.filter_some, if_neg (by simp [isOpen])]
      exact .swept rfl isOpen

theorem preview_batches (sheet : Sheet) (id : BatchId) (limit : Option Nat) (now : Instant) :
    (sheet.preview id limit now).2.batches = sheet.batches := by
  simp only [preview]
  split
  · rfl
  · split <;> rfl

theorem Becomes.eq_of_other {now : Instant} {call : BatchCall} {target : BatchId}
    {before later : Option Batch} (becomes : Becomes sheet id (.call now call) before later)
    (works : call.worksOn? = some target) (other : target ≠ id) : later = before := by
  cases becomes with
  | unknown => rfl
  | begun => simp [BatchCall.worksOn?] at works
  | kept => rfl
  | grown => exact absurd (Option.some.inj works).symm other
  | closed _ number closes =>
    subst number
    cases closes <;> exact absurd (Option.some.inj works).symm other
  | swept sweep => cases call <;> simp [BatchCall.worksOn?, Event.isSweep] at works sweep

theorem batch?_forget (sheet : Sheet) (target id : BatchId) :
    (sheet.forget target).batch? id = if target = id then none else sheet.batch? id :=
  SortedMap.get?_erase sheet.batches target id

-- The batch of a single operation is gone when the call returns, and no other is altered.
theorem batch?_executeSingle (sound : sheet.Sound) (numbered : sheet.Numbered) (op : Operation)
    (begun now : Instant) (id : BatchId) :
    (sheet.executeSingle op begun now).2.batch? id = sheet.batch? id := by
  have started := sound.begin ∅ begun
  have added := started.add ⟨sheet.nextId⟩ op
  have adds := becomes_add started ⟨sheet.nextId⟩ op now id
  have forgets : ∀ t : Sheet, (⟨sheet.nextId⟩ ≠ id → t.batch? id = sheet.batch? id) →
      (t.forget ⟨sheet.nextId⟩).batch? id = sheet.batch? id := by
    intro t elsewhere
    rw [batch?_forget]
    by_cases new : ⟨sheet.nextId⟩ = id
    · subst new
      rw [if_pos rfl, untracked_of_numbered numbered]
    · rw [if_neg new, elsewhere new]
  have begins : ⟨sheet.nextId⟩ ≠ id → (sheet.begin ∅ begun).2.batch? id = sheet.batch? id :=
    fun other => (sheet.batch?_putBatch _ id).trans (if_neg other)
  rcases sheet.executeSingle_cases op begun now with ⟨e, t, step, run⟩ | ⟨t, step, run⟩
  · rw [step] at adds
    rw [run]
    exact forgets t fun other => (adds.eq_of_other rfl other).trans (begins other)
  · rw [step] at added adds
    have commits := becomes_commit added ⟨sheet.nextId⟩ now id
    rw [run]
    exact forgets _ fun other =>
      ((commits.eq_of_other rfl other).trans (adds.eq_of_other rfl other)).trans (begins other)

theorem step_becomes (sound : sheet.Sound) (numbered : sheet.Numbered) (e : Event) (id : BatchId) :
    Becomes sheet id e (sheet.batch? id) ((sheet.step e).batch? id) := by
  cases e with
  | exchange store => exact becomes_self sheet id rfl rfl
  | executeSingle op begun now =>
    exact becomes_self sheet id rfl (batch?_executeSingle sound numbered op begun now id)
  | call now c =>
    cases c with
    | begin metadata => exact becomes_begin numbered metadata now id
    | add target op => exact becomes_add sound target op now id
    | validate target => exact becomes_self sheet id rfl rfl
    | preview target limit =>
      exact becomes_self sheet id rfl
        (congrArg (SortedMap.get? · id) (sheet.preview_batches target limit now))
    | commit target => exact becomes_commit sound target now id
    | rollBack target => exact becomes_rollBack sound target now id
    | cancel target => exact becomes_cancel sound target now id
    | sweep => exact becomes_sweep sheet now id
    | executeSingle op =>
      exact becomes_self sheet id rfl (batch?_executeSingle sound numbered op now (now + 1) id)
    | status target => exact becomes_self sheet id rfl rfl
    | active => exact becomes_self sheet id rfl rfl

end Becomes

/-- The number that an event gives out. -/
def issue? (sheet : Sheet) : Event → Option BatchId
  | .call now (.begin metadata) => some (sheet.begin metadata now).1
  | .call now (.executeSingle _) => some (sheet.begin ∅ now).1
  | .executeSingle _ begun _ => some (sheet.begin ∅ begun).1
  | _ => none

-- What no call on a batch alters.
structure Frame (sheet after : Sheet) : Prop where
  config : after.config = sheet.config
  nextId : after.nextId = sheet.nextId

section Frame

variable {sheet middle after : Sheet} {b : Batch}

theorem Frame.trans (first : sheet.Frame middle) (second : middle.Frame after) :
    sheet.Frame after where
  config := second.config.trans first.config
  nextId := second.nextId.trans first.nextId

theorem frame_add (sheet : Sheet) (id : BatchId) (op : Operation) :
    sheet.Frame (sheet.add id op).2 := by
  rcases sheet.add_cases id op with ⟨_, run⟩ | ⟨_, _, _, _, run⟩ <;> exact run ▸ ⟨rfl, rfl⟩

theorem frame_preview (sheet : Sheet) (id : BatchId) (limit : Option Nat) (now : Instant) :
    sheet.Frame (sheet.preview id limit now).2 := by
  simp only [preview]
  split
  · exact ⟨rfl, rfl⟩
  · split <;> exact ⟨rfl, rfl⟩

theorem frame_cancel (sheet : Sheet) (id : BatchId) : sheet.Frame (sheet.cancel id).2 := by
  simp only [cancel]
  split <;> exact ⟨rfl, rfl⟩

theorem frame_rollBack (sheet : Sheet) (id : BatchId) : sheet.Frame (sheet.rollBack id).2 := by
  simp only [rollBack, putBack]
  split
  · exact ⟨rfl, rfl⟩
  · split <;> exact ⟨rfl, rfl⟩

theorem CarriedOut.frame {outcome : Except BatchError BatchResult × Sheet}
    (carriedOut : CarriedOut sheet b outcome) : sheet.Frame outcome.2 := by
  cases carriedOut <;> exact ⟨rfl, rfl⟩

theorem frame_commit (sound : sheet.Sound) (id : BatchId) (now : Instant) :
    sheet.Frame (sheet.commit id now).2 := by
  rcases sheet.commit_cases id now with
    ⟨e, _, run⟩ | ⟨b, held, isOpen, ⟨_, run⟩ | ⟨_, run⟩⟩
  · exact run ▸ ⟨rfl, rfl⟩
  · exact run ▸ ⟨rfl, rfl⟩
  · exact run ▸ (sheet.carryOut_carriedOut (sound id b held).2 isOpen).frame

theorem frame_executeSingle (sound : sheet.Sound) (op : Operation) (begun now : Instant) :
    (sheet.begin ∅ begun).2.Frame (sheet.executeSingle op begun now).2 := by
  have started := sound.begin ∅ begun
  have added := started.add ⟨sheet.nextId⟩ op
  have adds := (sheet.begin ∅ begun).2.frame_add ⟨sheet.nextId⟩ op
  rcases sheet.executeSingle_cases op begun now with ⟨e, t, step, run⟩ | ⟨t, step, run⟩
  · rw [step] at adds
    exact run ▸ adds.trans ⟨rfl, rfl⟩
  · rw [step] at added adds
    exact run ▸ (adds.trans (frame_commit added ⟨sheet.nextId⟩ now)).trans ⟨rfl, rfl⟩

theorem step_frame (sound : sheet.Sound) (e : Event) :
    (sheet.step e).config = sheet.config ∧
      (sheet.step e).nextId = sheet.nextId + (sheet.issue? e).toList.length := by
  have same {after : Sheet} (frame : sheet.Frame after) :
      after.config = sheet.config ∧ after.nextId = sheet.nextId + 0 := ⟨frame.config, frame.nextId⟩
  have single (op : Operation) (begun now : Instant) :
      (sheet.executeSingle op begun now).2.config = sheet.config ∧
        (sheet.executeSingle op begun now).2.nextId = sheet.nextId + 1 :=
    have frame := frame_executeSingle sound op begun now
    ⟨frame.config, frame.nextId⟩
  cases e with
  | exchange store => exact ⟨rfl, rfl⟩
  | executeSingle op begun now => exact single op begun now
  | call now c =>
    cases c with
    | begin metadata => exact ⟨rfl, rfl⟩
    | add id op => exact same (sheet.frame_add id op)
    | validate id => exact ⟨rfl, rfl⟩
    | preview id limit => exact same (sheet.frame_preview id limit now)
    | commit id => exact same (frame_commit sound id now)
    | rollBack id => exact same (sheet.frame_rollBack id)
    | cancel id => exact same (sheet.frame_cancel id)
    | sweep => exact ⟨rfl, rfl⟩
    | executeSingle op => exact single op now (now + 1)
    | status id => exact ⟨rfl, rfl⟩
    | active => exact ⟨rfl, rfl⟩

theorem Reachable.config_after (reachable : sheet.Reachable) (events : List Event) :
    (sheet.after events).config = sheet.config := by
  induction events generalizing sheet with
  | nil => rfl
  | cons e rest ih => exact (ih (reachable.step e)).trans (step_frame reachable.sound e).1

theorem Numbered.step (sound : sheet.Sound) (numbered : sheet.Numbered) (e : Event) :
    (sheet.step e).Numbered := by
  intro id c held
  have becomes := step_becomes sound numbered e id
  obtain ⟨_, next⟩ := step_frame sound e
  rw [held] at becomes
  generalize before : sheet.batch? id = found at becomes
  cases becomes with
  | begun new =>
    simp only [new, next, issue?, Option.toList_some, List.length_singleton]
    omega
  | kept => exact Nat.lt_of_lt_of_le (numbered id _ before) (by omega)
  | grown => exact Nat.lt_of_lt_of_le (numbered id _ before) (by omega)
  | closed => exact Nat.lt_of_lt_of_le (numbered id _ before) (by omega)

theorem Reachable.numbered (reachable : sheet.Reachable) : sheet.Numbered := by
  refine reachable.invariant (fun store config id b held => ?_)
    fun sheet reached numbered e => numbered.step reached.sound e
  simp [batch?] at held

theorem Reachable.becomes (reachable : sheet.Reachable) (e : Event) (id : BatchId) :
    Becomes sheet id e (sheet.batch? id) ((sheet.step e).batch? id) :=
  step_becomes reachable.sound reachable.numbered e id

end Frame

end Sheet

end CellLedger
