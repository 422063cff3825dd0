import CellLedger.Batch

/-!
Putting captured contents back: one write per cell, row by row, each attempted whatever became of
those before it.
-/

set_option autoImplicit false

namespace CellLedger

/-- What became of an attempt to put contents back: the cells refused, in order, and why the first
of them was. -/
structure Restoration where
  restored : Nat := 0
  refused : List Address := []
  reason : Option String := none
  deriving DecidableEq

namespace Restoration

def refuse (r : Restoration) (a : Address) (e : StoreError) : Restoration :=
  { r with refused := a :: r.refused, reason := some e.message }

end Restoration

def restoreCells : List (Address × Option Value) → Store → Restoration × Store
  | [], s => ({}, s)
  | (a, value) :: rest, s =>
    match s.put a value with
    | (.ok (), s) =>
      let (r, s) := restoreCells rest s
      ({ r with restored := r.restored + 1 }, s)
    | (.error e, s) =>
      -- A refusal does not end the attempt, and the first one gives the reason.
      let (r, s) := restoreCells rest s
      (r.refuse a e, s)

/-- Puts the contents back, row by row; the answer is how many cells, or which were refused. -/
def restore (id : BatchId) (captured : SortedMap Address (Option Value)) (s : Store) :
    Except BatchError Nat × Store :=
  match restoreCells captured.entries s with
  | ({ restored, reason := none, .. }, s) => (.ok restored, s)
  | ({ refused, reason := some reason, .. }, s) => (.error (.rollbackFailed id refused reason), s)

end CellLedger
