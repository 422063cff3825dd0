import CellLedger.Operation

/-!
Deriving an operation from change records: one that drives every recorded cell to its value before,
or after. If all these values are equal it is a write of the first of them, or a clear; otherwise,
and where that value may not be written, it is a replay.
-/

set_option autoImplicit false

namespace CellLedger.Operation

def derive (changes : ChangeSet) (direction : Direction) : Operation :=
  match changes.values.map (·.side direction) with
  | [] => .replay changes direction
  | first :: rest =>
    if rest.all (Value.sameContents · first) then
      match first with
      | none => .clear (.ofKeys changes)
      | some value =>
        -- Records made by hand may hold a value that no write may carry.
        if writable : value.isBlankFormula = false then
          .setValue { selection := .ofKeys changes, options := ⟨value, true⟩, writable }
        else .replay changes direction
    else .replay changes direction

def deriveUndo (changes : ChangeSet) : Operation := derive changes .undo

def deriveRedo (changes : ChangeSet) : Operation := derive changes .redo

/-- The operation itself, unless it is a replay: those are derived afresh. -/
def reusable? (op : Operation) : Option Operation :=
  if op.isReplay then none else some op

theorem selection_derive (changes : ChangeSet) (direction : Direction) :
    (derive changes direction).selection = .ofKeys changes := by
  unfold derive
  split
  · rfl
  · split
    · split
      · rfl
      · split <;> rfl
    · rfl

end CellLedger.Operation
