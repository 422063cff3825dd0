import CellLedger.Operation.Result

/-!
Previewing an operation: the same rule as execution, applied to every selected cell without writing.
-/

set_option autoImplicit false

namespace CellLedger.Operation

def defaultLimit : Nat := 100

def prospect? (op : Operation) (a : Address) (current : Option Value) : Option Change :=
  (op.goal? a current).map fun target => op.changeOf a current target

def previewCells (op : Operation) :
    List Address → Store → Except StoreError (List Change) × Store
  | [], s => (.ok [], s)
  | a :: rest, s =>
    match s.get a with
    | (.error e, s) => (.error e, s)
    | (.ok current, s) =>
      match op.previewCells rest s with
      | (.error e, s) => (.error e, s)
      | (.ok changes, s) => (.ok ((op.prospect? a current).toList ++ changes), s)

def previewOf (op : Operation) (changes : List Change) (limit : Nat) : OperationPreview :=
  let total := changes.length
  let skipped := op.selection.count - total
  let formulas := changes.countP fun c => c.after.any Value.isFormula
  { changes := changes.take limit
    previewCount := min limit total
    totalChanges := total
    isTruncated := decide (limit < total)
    cellsModified := total
    cellsSkipped := skipped
    formulaCells := formulas
    valueCells := total - formulas
    warnings := (op.skipWarning? skipped).toList
    errors := op.problem?.toList
    estimate := op.estimate }

def preview (op : Operation) (limit : Option Nat) (s : Store) :
    Except StoreError OperationPreview × Store :=
  match op.previewCells op.selection.cells s with
  | (.error e, s) => (.error e, s)
  | (.ok changes, s) => (.ok (op.previewOf changes (limit.getD defaultLimit)), s)

end CellLedger.Operation
