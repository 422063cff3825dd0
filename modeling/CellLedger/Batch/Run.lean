import CellLedger.Batch.Restore

/-!
Running the operations of a batch one after another on captured contents. A failed operation either
ends the run, so that the whole batch can be put back, or is itself put back before the run goes on.
-/

set_option autoImplicit false

namespace CellLedger

inductive Ending where
  /-- Every operation ran, and those that failed were put back. -/
  | finished
  /-- An operation failed and the batch is to be put back. -/
  | abandoned
  /-- An operation failed and could not be put back. -/
  | stuck (error : BatchError)
  deriving DecidableEq

structure Run where
  results : List OperationResult := []
  /-- One text for each operation that failed, in order. -/
  errors : List String := []
  ending : Ending := .finished
  deriving DecidableEq

namespace Run

def precede (r : Run) (result : OperationResult) (errors : List String) : Run :=
  { r with results := result :: r.results, errors := errors ++ r.errors }

end Run

namespace Batch

def capturedOf (b : Batch) (op : Operation) : SortedMap Address (Option Value) :=
  b.captured.filter fun a _ => op.selection.contains a

/-- Runs the operations, the first of which has the given index in the batch. -/
def runFrom (b : Batch) (autoRollback : Bool) : Nat → List Operation → Store → Run × Store
  | _, [], s => ({}, s)
  | index, op :: rest, s =>
    match op.execute s with
    | (.ok result, s) =>
      let (run, s) := b.runFrom autoRollback (index + 1) rest s
      (run.precede result [], s)
    | (.error e, s) =>
      let cause := (BatchError.store e).message
      let failed := OperationResult.failed op.kind [cause]
      let error := (BatchError.operationFailed index op.description cause).message
      -- Putting back the whole batch is left to whoever closes it.
      if autoRollback then ({ results := [failed], errors := [error], ending := .abandoned }, s)
      else
        match restore b.id (b.capturedOf op) s with
        | (.error e, s) => ({ results := [failed], errors := [error], ending := .stuck e }, s)
        | (.ok _, s) =>
          let (run, s) := b.runFrom autoRollback (index + 1) rest s
          (run.precede failed [error], s)

def run (b : Batch) (autoRollback : Bool) (s : Store) : Run × Store :=
  b.runFrom autoRollback 0 b.operations s

end Batch

end CellLedger
