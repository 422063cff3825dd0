import CellLedger.Proofs.Sheet.Contents
import CellLedger.Proofs.Sheet.Steps

/-!
What calls come to, counted from their answers, from the states in which they leave their batches
and from the contents (`Sheet.tally`), and how the counters of a sheet follow it (`Stats.Posted`).
-/

set_option autoImplicit false

namespace CellLedger

/-- What calls come to, told from their answers, the states of their batches and the contents. -/
structure Tally where
  -- Single operations that were refused at registration, or rejected before they ran.
  discarded : Nat := 0
  -- Calls that answered with the error of a failed rollback.
  alarms : Nat := 0
  -- Cells altered by commits, as their results report it.
  reported : Nat := 0
  -- Batches that became committed.
  committed : Nat := 0
  -- Those of them whose commit answered with an error.
  stuck : Nat := 0
  -- Cells that the commits of the others left different.
  altered : Nat := 0

namespace Tally

instance : Add Tally where
  add x y :=
    { discarded := x.discarded + y.discarded
      alarms := x.alarms + y.alarms
      reported := x.reported + y.reported
      committed := x.committed + y.committed
      stuck := x.stuck + y.stuck
      altered := x.altered + y.altered }

theorem add_def (x y : Tally) :
    x + y =
      { discarded := x.discarded + y.discarded
        alarms := x.alarms + y.alarms
        reported := x.reported + y.reported
        committed := x.committed + y.committed
        stuck := x.stuck + y.stuck
        altered := x.altered + y.altered } := rfl

end Tally

-- One if the answer is the error of a failed rollback.
def alarm {A : Type} : Except BatchError A → Nat
  | .error e => e.isFatal.toNat
  | .ok _ => 0

@[simp] theorem alarm_error {A : Type} (e : BatchError) :
    alarm (.error e : Except BatchError A) = e.isFatal.toNat := rfl

@[simp] theorem alarm_ok {A : Type} (a : A) : alarm (.ok a : Except BatchError A) = 0 := rfl

@[simp] theorem alarm_map {A B : Type} (f : A → B) (answer : Except BatchError A) :
    alarm (answer.map f) = alarm answer := by
  cases answer <;> rfl

namespace Stats

/-- No counter is lower in `t`. -/
def Below (s t : Stats) : Prop :=
  s.batchesStarted ≤ t.batchesStarted ∧ s.batchesCommitted ≤ t.batchesCommitted ∧
    s.batchesRolledBack ≤ t.batchesRolledBack ∧ s.batchesCancelled ≤ t.batchesCancelled ∧
    s.operationsExecuted ≤ t.operationsExecuted ∧ s.operationsFailed ≤ t.operationsFailed ∧
    s.cellsModified ≤ t.cellsModified ∧ s.rollbackFailures ≤ t.rollbackFailures

/-- The counters come from `s` to `t` and the open batches from `n` to `m` by what is told. -/
structure Posted (rollback : Bool) (s : Stats) (n : Nat) (x : Tally) (t : Stats) (m : Nat) :
    Prop where
  balance : t.batchesStarted +
      (n + s.batchesCommitted + s.batchesRolledBack + s.batchesCancelled) =
    s.batchesStarted + (m + t.batchesCommitted + t.batchesRolledBack + t.batchesCancelled) +
      x.discarded + x.stuck
  commits : t.batchesCommitted + x.stuck = s.batchesCommitted + x.committed
  cells : t.cellsModified = s.cellsModified + x.reported
  alarms : t.rollbackFailures = s.rollbackFailures + x.alarms
  altered : x.altered = x.reported
  alarmed : x.alarms + s.batchesRolledBack ≤ t.batchesRolledBack + x.stuck
  sounded : x.stuck ≤ x.alarms
  executed : t.operationsFailed + s.operationsExecuted ≤ s.operationsFailed + t.operationsExecuted
  strict : rollback = true → x.stuck = 0 ∧
    t.operationsFailed + s.batchesRolledBack ≤ s.operationsFailed + t.batchesRolledBack
  below : s.Below t

variable {rollback : Bool} {s t u : Stats} {n m k : Nat} {x y : Tally}

theorem Posted.trans (first : Posted rollback s n x t m) (second : Posted rollback t m y u k) :
    Posted rollback s n (x + y) u k := by
  obtain ⟨balance, commits, cells, alarms, altered, alarmed, sounded, executed, strict, below⟩ :=
    first
  obtain ⟨balance', commits', cells', alarms', altered', alarmed', sounded', executed', strict',
    below'⟩ := second
  simp only [Below] at below below'
  have sums : (x + y).discarded = x.discarded + y.discarded ∧
      (x + y).alarms = x.alarms + y.alarms ∧ (x + y).reported = x.reported + y.reported ∧
      (x + y).committed = x.committed + y.committed ∧ (x + y).stuck = x.stuck + y.stuck ∧
      (x + y).altered = x.altered + y.altered := ⟨rfl, rfl, rfl, rfl, rfl, rfl⟩
  constructor
  case strict =>
    intro on
    have here := strict on
    have later := strict' on
    omega
  case below =>
    simp only [Below]
    omega
  all_goals omega

theorem Posted.refl (rollback : Bool) (s : Stats) (n : Nat) : Posted rollback s n {} s n := by
  constructor <;> simp [Below]

section Recording

variable {executed failed : Nat}

-- The counters after a run of operations.
def ran (s : Stats) (executed failed : Nat) : Stats :=
  { s with
    operationsExecuted := s.operationsExecuted + executed
    operationsFailed := s.operationsFailed + failed }

theorem Posted.begun (rollback : Bool) (s : Stats) (n : Nat) :
    Posted rollback s n {} s.recordStart (n + 1) := by
  constructor <;> simp [recordStart, Below]
  omega

theorem Posted.cancelled (rollback : Bool) (s : Stats) (n : Nat) :
    Posted rollback s (n + 1) {} s.recordCancel n := by
  constructor <;> simp [recordCancel, Below]
  omega

theorem Posted.rolledBack (rollback : Bool) (s : Stats) (n : Nat) (fewer : failed ≤ executed)
    (one : failed ≤ 1) :
    Posted rollback s (n + 1) {} (s.ran executed failed).recordRollback n := by
  constructor <;> simp [ran, recordRollback, Below] <;> omega

theorem Posted.unrestored (rollback : Bool) (s : Stats) (n : Nat) (fewer : failed ≤ executed)
    (one : failed ≤ 1) :
    Posted rollback s (n + 1) { alarms := 1 }
      (s.ran executed failed).recordRollback.recordRollbackFailure n := by
  constructor <;> simp [ran, recordRollback, recordRollbackFailure, Below] <;> omega

-- The one way in which a batch is closed and not counted.
theorem Posted.stuck (s : Stats) (n : Nat) (fewer : failed ≤ executed) :
    Posted false s (n + 1) { alarms := 1, committed := 1, stuck := 1 }
      (s.ran executed failed).recordRollbackFailure n := by
  constructor <;> simp [ran, recordRollbackFailure, Below] <;> omega

theorem Posted.committed (s : Stats) (n : Nat) (fewer : failed ≤ executed)
    (strict : rollback = true → failed = 0) (cells : Nat) :
    Posted rollback s (n + 1) { reported := cells, committed := 1, altered := cells }
      ((s.ran executed failed).recordCommit cells) n := by
  constructor
  case strict => exact fun on => by simp [ran, recordCommit, strict on]
  all_goals simp [ran, recordCommit, Below]
  all_goals omega

end Recording

end Stats

theorem Batch.alarm_add (b : Batch) (op : Operation) (config : SheetConfig) :
    alarm (b.add op config) = 0 := by
  simp only [add]
  split
  · rfl
  · split
    · rfl
    · split
      · rfl
      · split <;> rfl

namespace Sheet

section Tallies

-- What a commit of the batch with this number comes to that ends like this.
def commitTally (sheet : Sheet) (id : BatchId)
    (outcome : Except BatchError BatchResult × Sheet) : Tally :=
  let commits := (sheet.batch? id).any (·.isActive) &&
    (outcome.2.batch? id).any fun b => b.state = .committed
  { reported := outcome.1.toOption.elim 0 (·.totalCellsModified)
    committed := commits.toNat
    stuck := (commits && !outcome.1.isOk).toNat
    altered :=
      if commits && outcome.1.isOk then sheet.store.cells.distance outcome.2.store.cells else 0 }

def rejects (sheet : Sheet) (id : BatchId) (now : Instant) : Bool :=
  (sheet.batch? id).any fun b => b.isActive && !(sheet.objections b now).isEmpty

def singleTally (sheet : Sheet) (op : Operation) (begun now : Instant) : Tally :=
  match (sheet.begin ∅ begun).2.add ⟨sheet.nextId⟩ op with
  | (.error _, _) => { discarded := 1 }
  | (.ok (), t) =>
    { t.commitTally ⟨sheet.nextId⟩ (t.commit ⟨sheet.nextId⟩ now) with
      discarded := (t.rejects ⟨sheet.nextId⟩ now).toNat }

def alarms (sheet : Sheet) : Event → Nat
  | .call now c => alarm (sheet.call now c).1
  | .executeSingle op begun now => alarm (sheet.executeSingle op begun now).1
  | .exchange _ => 0

def tallyOf (sheet : Sheet) (e : Event) : Tally :=
  let commits : Tally := match e with
    | .call now (.commit id) => sheet.commitTally id (sheet.commit id now)
    | .call now (.executeSingle op) => sheet.singleTally op now (now + 1)
    | .executeSingle op begun now => sheet.singleTally op begun now
    | _ => {}
  { commits with alarms := sheet.alarms e }

def tally : Sheet → List Event → Tally
  | _, [] => {}
  | sheet, e :: rest => sheet.tallyOf e + tally (sheet.step e) rest

end Tallies

section Alarms

variable {sheet : Sheet}

theorem alarm_find (sheet : Sheet) (id : BatchId) : alarm (sheet.find id) = 0 := by
  simp only [find]
  split <;> rfl

theorem alarm_findActive (sheet : Sheet) (id : BatchId) : alarm (sheet.findActive id) = 0 := by
  cases held : sheet.batch? id with
  | none => simp [findActive, find, held, bind, Except.bind, alarm, BatchError.isFatal]
  | some b =>
    cases isOpen : b.isActive <;>
      simp [findActive, find, held, bind, Except.bind, alarm, BatchError.isFatal,
        Batch.ensureActive, isOpen]

theorem alarm_add (sheet : Sheet) (id : BatchId) (op : Operation) :
    alarm (sheet.add id op).1 = 0 := by
  have unknown := sheet.alarm_find id
  cases held : sheet.find id with
  | error e =>
    rw [held] at unknown
    simpa only [add, held, alarm_error] using unknown
  | ok b =>
    have refused := b.alarm_add op sheet.config
    cases accepted : b.add op sheet.config with
    | error e =>
      rw [accepted] at refused
      simpa only [add, held, accepted, alarm_error] using refused
    | ok c => simp only [add, held, accepted, alarm_ok]

-- Only a commit can fail to put contents back: nothing is captured in an open batch.
theorem alarm_of_quiet (sound : sheet.Sound) (now : Instant) {c : BatchCall}
    (quiet : c.isQuiet = true) : alarm (sheet.call now c).1 = 0 := by
  cases c with
  | begin metadata => rfl
  | add id op => simpa only [call, alarm_map] using sheet.alarm_add id op
  | validate id => simpa only [call, validate, alarm_map] using sheet.alarm_find id
  | preview id limit =>
    have refused := sheet.alarm_findActive id
    simp only [call, alarm_map, preview]
    cases found : sheet.findActive id with
    | error e => simpa only [found, alarm_error] using refused
    | ok b =>
      simp only
      split <;> rfl
  | commit id => simp [BatchCall.isQuiet] at quiet
  | rollBack id =>
    have refused := sheet.alarm_findActive id
    simp only [call, alarm_map, rollBack]
    cases found : sheet.findActive id with
    | error e => simpa only [found, alarm_error] using refused
    | ok b =>
      obtain ⟨held, isOpen⟩ := findActive_eq_ok.1 found
      simp only [putBack, (sound id b held).2.fresh isOpen]
      rfl
  | cancel id =>
    have refused := sheet.alarm_findActive id
    simp only [call, alarm_map, cancel]
    cases found : sheet.findActive id with
    | error e => simpa only [found, alarm_error] using refused
    | ok b => rfl
  | sweep => rfl
  | executeSingle op => simp [BatchCall.isQuiet] at quiet
  | status id => rfl
  | active => rfl

end Alarms

end Sheet

end CellLedger
