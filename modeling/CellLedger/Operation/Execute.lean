import CellLedger.Operation.Result

/-!
Executing an operation: each selected cell, row by row, is read once and written if the operation
has a goal for it. The first refused access ends the execution; cells already written stay written.
-/

set_option autoImplicit false

namespace CellLedger.Operation

/-- Reads one cell and writes it if need be; the record tells whether it was altered. -/
def executeCell (op : Operation) (a : Address) (s : Store) :
    Except StoreError (Option Change) × Store :=
  match s.get a with
  | (.error e, s) => (.error e, s)
  | (.ok current, s) =>
    match op.goal? a current with
    | none => (.ok none, s)
    | some target =>
      match s.put a target with
      | (.error e, s) => (.error e, s)
      | (.ok (), s) => (.ok (some (op.changeOf a current target)), s)

def file (changes : ChangeSet) (a : Address) : Option Change → ChangeSet
  | some change => changes.insert a change
  | none => changes

def executeCells (op : Operation) :
    List Address → ChangeSet → Store → Except StoreError ChangeSet × Store
  | [], changes, s => (.ok changes, s)
  | a :: rest, changes, s =>
    match op.executeCell a s with
    | (.error e, s) => (.error e, s)
    | (.ok change, s) => op.executeCells rest (file changes a change) s

def resultOf (op : Operation) (changes : ChangeSet) : OperationResult where
  success := true
  cellsModified := changes.size
  cellsProcessed := op.selection.count
  errors := []
  warnings := (op.skipWarning? (op.selection.count - changes.size)).toList
  changes := changes
  info := { kind := op.kind }

def execute (op : Operation) (s : Store) : Except StoreError OperationResult × Store :=
  match op.executeCells op.selection.cells ∅ s with
  | (.error e, s) => (.error e, s)
  | (.ok changes, s) => (.ok (op.resultOf changes), s)

/-- What an execution without faults leaves in a cell that held `current`. -/
def outcome (op : Operation) (a : Address) (current : Option Value) : Option Value :=
  if a ∈ op.selection.cells then (op.goal? a current).getD current else current

/-- What an execution without faults leaves of the contents. -/
def apply (op : Operation) (cells : Cells) : Cells :=
  op.selection.cells.foldl
    (fun cells a => cells.assign a (op.outcome a (cells.get? a))) cells

end CellLedger.Operation
