import CellLedger.Batch.Result
import CellLedger.History.ActionId
import CellLedger.Operation.Inverse

/-!
The history: what was done and can be undone, and what was undone and can be redone, each newest
first and of bounded length. Recording an action forgets what could be redone.
-/

set_option autoImplicit false

namespace CellLedger

structure Action where
  id : ActionId
  kind : OperationKind
  description : String
  recordedAt : Instant
  undoOperation : Operation
  /-- The operation that made the changes, if it can be run again. -/
  redoOperation : Option Operation
  changes : ChangeSet
  metadata : Metadata
  deriving DecidableEq

/-- The identifier of a new action and the time of its recording. -/
structure Stamp where
  id : ActionId
  recordedAt : Instant
  deriving DecidableEq, Repr

structure History where
  config : HistoryConfig := {}
  done : List Action := []
  undone : List Action := []
  deriving DecidableEq

namespace Action

def redo (a : Action) : Operation := a.redoOperation.getD (.deriveRedo a.changes)

def ofOperation (op : Operation) (changes : ChangeSet) (stamp : Stamp) : Action where
  id := stamp.id
  kind := op.kind
  description := op.description
  recordedAt := stamp.recordedAt
  undoOperation := .deriveUndo changes
  redoOperation := op.reusable?
  changes := changes
  metadata := ∅

/-- The action of a batch; a batch of one operation is described like that operation. -/
def ofBatch (operations : List Operation) (result : BatchResult) (stamp : Stamp) : Action :=
  let metadata := (∅ : Metadata).insert "batch_id" result.id.text
  match operations with
  | [op] => { ofOperation op result.changes stamp with metadata }
  | _ =>
    { id := stamp.id
      kind := .batch
      description := "Batch of " ++ toString operations.length ++ " operations (" ++
        toString result.changes.size ++ " cell(s))"
      recordedAt := stamp.recordedAt
      undoOperation := .deriveUndo result.changes
      redoOperation := none
      changes := result.changes
      metadata }

end Action

namespace History

def isFresh (h : History) (now : Instant) (a : Action) : Bool :=
  !decide (h.config.maxAge < Duration.between a.recordedAt now)

def evict (h : History) (now : Instant) : Nat × History :=
  let kept := { h with
    done := h.done.filter (h.isFresh now)
    undone := h.undone.filter (h.isFresh now) }
  (h.done.length + h.undone.length - (kept.done.length + kept.undone.length), kept)

def push (h : History) (a : Action) (now : Instant) : History :=
  -- The new action may itself be among those dropped.
  let pushed := { h with done := (a :: h.done).take h.config.maxActions, undone := [] }
  if h.config.autoEvict then (pushed.evict now).2 else pushed

/-- Records an operation that was executed; one that failed or altered nothing is not recorded. -/
def record (h : History) (op : Operation) (result : OperationResult) (stamp : Stamp)
    (now : Instant) : Option ActionId × History :=
  if !result.success || result.changes.isEmpty then (none, h)
  else (some stamp.id, h.push (.ofOperation op result.changes stamp) now)

/-- Records a committed batch as one action; one that is not a full success is not recorded. -/
def recordBatch (h : History) (operations : List Operation) (result : BatchResult) (stamp : Stamp)
    (now : Instant) : Option ActionId × History :=
  if !result.success || result.changes.isEmpty then (none, h)
  else (some stamp.id, h.push (.ofBatch operations result stamp) now)

def objection? (h : History) (a : Action) : Option String :=
  if h.config.validateUndo then a.undoOperation.problem? else none

def undo (h : History) (s : Store) : Except BatchError OperationResult × History × Store :=
  match h.done with
  | [] => (.error .nothingToUndo, h, s)
  | action :: older =>
    match h.objection? action with
    | some reason => (.error (.undoInvalid reason), h, s)
    | none =>
      match action.undoOperation.execute s with
      | (.error e, s) => (.error (.undoFailed (BatchError.store e).message), h, s)
      | (.ok result, s) =>
        (.ok result,
          { h with done := older, undone := (action :: h.undone).take h.config.maxUndone }, s)

def redo (h : History) (s : Store) : Except BatchError OperationResult × History × Store :=
  match h.undone with
  | [] => (.error .nothingToRedo, h, s)
  | action :: older =>
    match action.redo.execute s with
    | (.error e, s) => (.error (.redoFailed (BatchError.store e).message), h, s)
    | (.ok result, s) =>
      (.ok result,
        { h with done := (action :: h.done).take h.config.maxActions, undone := older }, s)

def canUndo (h : History) : Bool := !h.done.isEmpty

def canRedo (h : History) : Bool := !h.undone.isEmpty

def undoDescription? (h : History) : Option String := h.done.head?.map (·.description)

def redoDescription? (h : History) : Option String := h.undone.head?.map (·.description)

def clear (h : History) : History := { h with done := [], undone := [] }

def text (h : History) : String :=
  "UndoRedoManager \x7b undo_depth: " ++ toString h.done.length ++
    ", redo_depth: " ++ toString h.undone.length ++
    ", config: " ++ h.config.text ++ " \x7d"

end History

end CellLedger
