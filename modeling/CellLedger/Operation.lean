import CellLedger.Batch.Error
import CellLedger.Change
import CellLedger.Duration

/-!
Operations: one rule for every cell of a selection. `Operation.goal?` is the rule; previewing and
executing both follow it, so that they agree on the same contents.
-/

set_option autoImplicit false

namespace CellLedger

inductive OperationKind where
  | setValue
  | clear
  | undoReplay
  | redoReplay
  | batch
  deriving DecidableEq, Repr, Inhabited

def OperationKind.text : OperationKind → String
  | .setValue => "set-value"
  | .clear => "clear"
  | .undoReplay => "undo-replay"
  | .redoReplay => "redo-replay"
  | .batch => "batch"

structure SetOptions where
  value : Value
  /-- Whether cells that hold a value are overwritten; if not, they are skipped. -/
  overwrite : Bool
  deriving DecidableEq, Repr

structure SetValue where
  selection : Selection
  options : SetOptions
  writable : options.value.isBlankFormula = false
  deriving DecidableEq

/-- The side of a change record to which a replay drives its cell. -/
inductive Direction where
  | undo
  | redo
  deriving DecidableEq, Repr

def Change.side (c : Change) : Direction → Option Value
  | .undo => c.before
  | .redo => c.after

inductive Operation where
  | setValue (set : SetValue)
  | clear (selection : Selection)
  /-- Drives the cell under each key to its own recorded value. -/
  | replay (changes : ChangeSet) (direction : Direction)
  deriving DecidableEq

namespace Operation

def set (selection : Selection) (options : SetOptions) : Except BatchError Operation :=
  if writable : options.value.isBlankFormula = false then
    .ok (.setValue { selection, options, writable })
  else
    .error (.invalidOperation "formula body is empty")

/-- A write of one text over whatever the cells hold. -/
def overwriteText (selection : Selection) (s : String) : Operation :=
  .setValue { selection, options := ⟨.text s, true⟩, writable := rfl }

def selection : Operation → Selection
  | .setValue set => set.selection
  | .clear selection => selection
  | .replay changes _ => .ofKeys changes

def kind : Operation → OperationKind
  | .setValue _ => .setValue
  | .clear _ => .clear
  | .replay _ .undo => .undoReplay
  | .replay _ .redo => .redoReplay

/-- What the operation wants in a cell with these contents, or `none` if it passes the cell over. -/
def plan (op : Operation) (a : Address) (current : Option Value) : Option (Option Value) :=
  match op with
  | .setValue set =>
    if current.isSome && !set.options.overwrite then none else some (some set.options.value)
  | .clear _ => if current.isSome then some none else none
  | .replay changes direction => (changes.get? a).map (·.side direction)

/-- What the operation writes into a cell; it writes only what differs from the contents. -/
def goal? (op : Operation) (a : Address) (current : Option Value) : Option (Option Value) :=
  (op.plan a current).filter fun target => !Value.sameContents target current

def changeOf (op : Operation) (a : Address) (before after : Option Value) : Change :=
  (Change.record a before after).withMetadata "operation" op.kind.text

def skipWarning? (op : Operation) (skipped : Nat) : Option String :=
  match op with
  | .setValue set =>
    if 0 < skipped && !set.options.overwrite then
      some (toString skipped ++
        " cell(s) skipped: already hold a value and overwrite is off")
    else none
  | _ => none

def problem? (op : Operation) : Option String :=
  if op.selection.isEmpty then some "empty selection" else none

/-- A rough cost, linear in the number of cells, of which at most `2 ^ 32 - 1` count. -/
def estimate (op : Operation) : Duration :=
  .ofMicroseconds (50 + 2 * min op.selection.count (UInt32.size - 1))

def description (op : Operation) : String :=
  let cells := toString op.selection.count
  match op with
  | .setValue set => "Set \"" ++ set.options.value.display ++ "\" in " ++ cells ++ " cell(s)"
  | .clear _ => "Clear " ++ cells ++ " cell(s)"
  | .replay _ .undo => "Undo changes to " ++ cells ++ " cell(s)"
  | .replay _ .redo => "Redo changes to " ++ cells ++ " cell(s)"

def isReplay : Operation → Bool
  | .replay .. => true
  | _ => false

end Operation

end CellLedger
