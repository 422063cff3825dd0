import CellLedger.Selection
import CellLedger.Store

/-!
Change records: what one cell held before and after. A change set files records under cells; undo
and redo are derived from such records alone.
-/

set_option autoImplicit false

namespace CellLedger

abbrev Metadata := SortedMap String String

inductive ChangeKind where
  | value
  | formula
  | format
  | clear
  deriving DecidableEq, Repr, Inhabited

structure Change where
  address : Address
  before : Option Value
  after : Option Value
  /-- The formula written, with its equals sign. -/
  formula : Option String
  isFormula : Bool
  kind : ChangeKind
  metadata : Metadata
  deriving DecidableEq

abbrev ChangeSet := SortedMap Address Change

namespace Change

def kindOf : Option Value → ChangeKind
  | none => .clear
  | some v => if v.isFormula then .formula else .value

/-- The record of a write; its kind and formula follow from what was written. -/
def record (address : Address) (before after : Option Value) : Change where
  address := address
  before := before
  after := after
  formula := after.bind Value.formulaText?
  isFormula := (after.bind Value.formulaText?).isSome
  kind := kindOf after
  metadata := ∅

def withMetadata (c : Change) (name value : String) : Change :=
  { c with metadata := c.metadata.insert name value }

/-- The record of the opposite write; metadata is not carried over. -/
def inverted (c : Change) : Change := record c.address c.after c.before

end Change

end CellLedger
