import CellLedger.Store.Error

/-!
Batch identifiers and states, and why a batch, an operation or a step of the history is refused.
-/

set_option autoImplicit false

namespace CellLedger

/-- Batches are numbered in the order they are begun. -/
structure BatchId where
  value : Nat
  deriving DecidableEq, Repr, Inhabited

instance : LT BatchId := ⟨fun a b => a.value < b.value⟩

instance : KeyOrder BatchId where
  decidable_lt a b := inferInstanceAs (Decidable (a.value < b.value))
  irrefl a := Nat.lt_irrefl a.value
  trans := Nat.lt_trans
  total a b := by
    rcases Nat.lt_trichotomy a.value b.value with h | h | h
    · exact .inl h
    · exact .inr (.inl (by cases a; cases b; cases h; rfl))
    · exact .inr (.inr h)

def BatchId.text (id : BatchId) : String := "batch:" ++ toString id.value

/-- The only state that a batch can leave is `active`. -/
inductive BatchState where
  | active
  | committed
  | rolledBack
  | cancelled
  deriving DecidableEq, Repr, Inhabited

def BatchState.text : BatchState → String
  | .active => "open"
  | .committed => "committed"
  | .rolledBack => "rolled back"
  | .cancelled => "cancelled"

inductive BatchError where
  | store (cause : StoreError)
  | notFound (id : BatchId)
  | inactive (id : BatchId) (state : BatchState)
  /-- A cell is already targeted by the operation with this index. -/
  | conflict (address : Address) (owner : Nat)
  | sizeLimit (limit : Nat)
  | cellLimit (limit projected : Nat)
  | invalidOperation (reason : String)
  | operationFailed (index : Nat) (description reason : String)
  /-- Captured contents could not be put back into these cells. -/
  | rollbackFailed (id : BatchId) (cells : List Address) (reason : String)
  | nothingToUndo
  | nothingToRedo
  | undoInvalid (reason : String)
  | undoFailed (reason : String)
  | redoFailed (reason : String)
  deriving DecidableEq, Repr

namespace BatchError

def message : BatchError → String
  | .store cause => "store error: " ++ cause.message
  | .notFound id => "batch not found: " ++ id.text
  | .inactive id state =>
    "batch " ++ id.text ++ " is not active (state: " ++ state.text ++ ")"
  | .conflict address owner =>
    "cell conflict at " ++ address.name ++ " (key " ++ address.key ++
      "): already targeted by operation " ++ toString owner
  | .sizeLimit limit =>
    "batch size limit exceeded: at most " ++ toString limit ++ " operations per batch"
  | .cellLimit limit projected =>
    "cell limit exceeded: " ++ toString projected ++ " cells projected, limit is " ++
      toString limit
  | .invalidOperation reason => "invalid operation: " ++ reason
  | .operationFailed index description reason =>
    "operation " ++ toString index ++ " (" ++ description ++ ") failed: " ++ reason
  | .rollbackFailed id cells reason =>
    "rollback of " ++ id.text ++ " failed for " ++ toString cells.length ++ " cell(s): " ++ reason
  | .nothingToUndo => "nothing to undo"
  | .nothingToRedo => "nothing to redo"
  | .undoInvalid reason => "undo validation failed: " ++ reason
  | .undoFailed reason => "undo failed: " ++ reason
  | .redoFailed reason => "redo failed: " ++ reason

/-- The store may be left neither as it was nor as intended. -/
def isFatal : BatchError → Bool
  | .rollbackFailed .. => true
  | _ => false

end BatchError

end CellLedger
