import CellLedger.History
import CellLedger.Sheet.Commit

/-!
Sessions: one sheet and one history over its store, worked on by calls in sequence. `Sheet.call`
answers the calls that concern batches. Every reading of the clock is later than the ones before it.
-/

set_option autoImplicit false

namespace CellLedger

structure Session where
  sheet : Sheet
  history : History := {}
  /-- The last result of each batch whose commit answered with one. -/
  results : SortedMap BatchId BatchResult := ∅
  clock : Instant := 0
  nextAction : Nat := 0

inductive BatchCall where
  | begin (metadata : Metadata)
  | add (id : BatchId) (op : Operation)
  | validate (id : BatchId)
  | preview (id : BatchId) (limit : Option Nat)
  | commit (id : BatchId)
  | rollBack (id : BatchId)
  | cancel (id : BatchId)
  | sweep
  | executeSingle (op : Operation)
  | status (id : BatchId)
  | active

inductive BatchReply where
  | done
  | begun (id : BatchId)
  | problems (problems : List String)
  | preview (preview : BatchPreview)
  | committed (result : BatchResult)
  | swept (count : Nat)
  | executed (result : OperationResult)
  | status (status : Option BatchStatus)
  | active (ids : List BatchId)

namespace Sheet

/-- Answers one call. An instant separates the two readings of the clock that a call may take. -/
def call (sheet : Sheet) (now : Instant) : BatchCall → Except BatchError BatchReply × Sheet
  | .begin metadata =>
    let (id, sheet) := sheet.begin metadata now
    (.ok (.begun id), sheet)
  | .add id op =>
    let (r, sheet) := sheet.add id op
    (r.map fun _ => .done, sheet)
  | .validate id => ((sheet.validate id now).map .problems, sheet)
  | .preview id limit =>
    let (r, sheet) := sheet.preview id limit now
    (r.map .preview, sheet)
  | .commit id =>
    let (r, sheet) := sheet.commit id now
    (r.map .committed, sheet)
  | .rollBack id =>
    let (r, sheet) := sheet.rollBack id
    (r.map fun _ => .done, sheet)
  | .cancel id =>
    let (r, sheet) := sheet.cancel id
    (r.map fun _ => .done, sheet)
  | .sweep =>
    let (n, sheet) := sheet.sweep
    (.ok (.swept n), sheet)
  | .executeSingle op =>
    let (r, sheet) := sheet.executeSingle op now (now + 1)
    (r.map .executed, sheet)
  | .status id => (.ok (.status (sheet.status? id now)), sheet)
  | .active => (.ok (.active sheet.activeBatches), sheet)

end Sheet

/-- Whether a record was made, and whether it is now the newest action that can be undone. -/
inductive Recording where
  | nothing
  | action (onTop : Bool)
  deriving DecidableEq, Repr

namespace Session

def ofCells (cells : Cells) (config : SheetConfig) (history : HistoryConfig) : Session where
  sheet := { store := .ofCells cells, config }
  history := { config := history }

def store (s : Session) : Store := s.sheet.store

def withStore (s : Session) (store : Store) : Session :=
  { s with sheet := { s.sheet with store } }

def tick (s : Session) : Session := { s with clock := s.clock + 2 }

def call (s : Session) (c : BatchCall) : Except BatchError BatchReply × Session :=
  let (reply, sheet) := s.sheet.call s.clock c
  let results := match reply with
    | .ok (.committed result) => s.results.insert result.id result
    | _ => s.results
  (reply, { s with sheet, results }.tick)

def recordWith (s : Session)
    (record : Stamp → Instant → History → Option ActionId × History) : Recording × Session :=
  let stamp : Stamp := ⟨⟨BitVec.ofNat 128 s.nextAction⟩, s.clock⟩
  let (id, history) := record stamp (s.clock + 1) s.history
  let recording := match id with
    | none => .nothing
    | some id => .action (history.done.head?.any fun a => a.id = id)
  (recording, { s with history, nextAction := s.nextAction + 1 }.tick)

def record (s : Session) (op : Operation) (result : OperationResult) : Recording × Session :=
  s.recordWith fun stamp now h => h.record op result stamp now

def recordBatch (s : Session) (operations : List Operation) (result : BatchResult) :
    Recording × Session :=
  s.recordWith fun stamp now h => h.recordBatch operations result stamp now

/-- Records the remembered result of a batch, if there is one, with the operations of the batch as
far as it is still known. -/
def recordCommitted (s : Session) (id : BatchId) : Option Recording × Session :=
  match s.results.get? id with
  | none => (none, s)
  | some result =>
    let operations := (s.sheet.batch? id).elim [] (·.operations)
    let (recording, s) := s.recordBatch operations result
    (some recording, s)

def undo (s : Session) : Except BatchError OperationResult × Session :=
  let (r, history, store) := s.history.undo s.store
  (r, { s with history }.withStore store)

def redo (s : Session) : Except BatchError OperationResult × Session :=
  let (r, history, store) := s.history.redo s.store
  (r, { s with history }.withStore store)

def evict (s : Session) : Nat × Session :=
  let (n, history) := s.history.evict s.clock
  (n, { s with history }.tick)

def previewOperation (s : Session) (op : Operation) (limit : Option Nat) :
    Except BatchError OperationPreview × Session :=
  let (r, store) := op.preview limit s.store
  (r.mapError .store, s.withStore store)

def execute (s : Session) (op : Operation) : Except BatchError OperationResult × Session :=
  let (r, store) := op.execute s.store
  (r.mapError .store, s.withStore store)

end Session

end CellLedger
