import CellLedger.Json.Codec
import CellLedger.Operation

/-!
The JSON forms of cells, changes, selections and settings of a write. Addresses are their keys, also
as the names of members.
-/

set_option autoImplicit false

namespace CellLedger.Contract

def address : Codec Address := .viaString Address.key Address.ofKey?

/-- An object whose only member is named for the kind of value. -/
def value : Codec Value where
  write := fun
    | .text s => .record [("Text", Codec.string.write s)]
    | .number x => .record [("Number", Codec.number.write x)]
    | .boolean b => .record [("Boolean", Codec.bool.write b)]
    | .formula s => .record [("Formula", Codec.string.write s)]
  read? := fun
    | .object [(some name, j)] =>
      if name = "Text" then (Codec.string.read? j).map .text
      else if name = "Number" then (Codec.number.read? j).map .number
      else if name = "Boolean" then (Codec.bool.read? j).map .boolean
      else if name = "Formula" then (Codec.string.read? j).map .formula
      else none
    | _ => none

def changeKind : Codec ChangeKind :=
  .choice [("Value", .value), ("Formula", .formula), ("Format", .format), ("Clear", .clear)]

def metadata : Codec Metadata := .map id some .string

def change : Codec Change where
  write c := .record [
    ("address", address.write c.address),
    ("before", value.option.write c.before),
    ("after", value.option.write c.after),
    ("formula", Codec.string.option.write c.formula),
    ("is_formula", Codec.bool.write c.isFormula),
    ("change_type", changeKind.write c.kind),
    ("metadata", metadata.write c.metadata)]
  read? j := do
    let names := ["address", "before", "after", "formula", "is_formula", "change_type", "metadata"]
    match ← j.fields? false names with
    | [a, before, after, formula, isFormula, kind, m] => some {
        address := ← address.required? a
        before := ← value.optional? before
        after := ← value.optional? after
        formula := ← Codec.string.optional? formula
        isFormula := ← Codec.bool.required? isFormula
        kind := ← changeKind.required? kind
        metadata := ← metadata.required? m }
    | _ => none

def changeSet : Codec ChangeSet := .map Address.key Address.ofKey? change

def selection : Codec Selection where
  write s := .record [("cells", address.list.write s.cells)]
  read? j := do
    match ← j.fields? false ["cells"] with
    | [cells] => some (.ofList (← address.list.required? cells))
    | _ => none

def setOptions : Codec SetOptions where
  write o := .record [
    ("value", value.write o.value),
    ("overwrite_existing", Codec.bool.write o.overwrite)]
  read? j := do
    match ← j.fields? false ["value", "overwrite_existing"] with
    | [v, overwrite] => some {
        value := ← value.required? v
        overwrite := ← Codec.bool.required? overwrite }
    | _ => none

end CellLedger.Contract
