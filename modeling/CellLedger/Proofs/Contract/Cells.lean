import CellLedger.Contract.Cells
import CellLedger.Proofs.Json.Codec

/-!
Cells, changes, selections and settings of a write ship as text if their numbers are finite.
-/

set_option autoImplicit false

namespace CellLedger

def Value.isFinite (v : Value) : Bool := v.number?.all Number.isFinite

/-- No number that is not finite was overwritten or written. -/
def Change.isFinite (c : Change) : Bool :=
  c.before.all Value.isFinite && c.after.all Value.isFinite

def ChangeSet.isFinite (changes : ChangeSet) : Bool := changes.values.all Change.isFinite

theorem ChangeSet.isFinite_iff {changes : ChangeSet} :
    changes.isFinite = true ↔ ∀ e ∈ changes.entries, e.2.isFinite = true := by
  simp [isFinite, SortedMap.values]

theorem Selection.ofList_cells (s : Selection) : ofList s.cells = s := by
  let m : SortedMap Address Unit := ⟨s.cells.map fun a => (a, ()), List.pairwise_map.mpr s.ascending⟩
  have keys : m.keys = s.cells := by simp [m, SortedMap.keys, Function.comp_def]
  have listed : ofList s.cells = ofKeys m := congrArg ofKeys m.ofList_entries
  rw [listed]
  cases s
  simp [ofKeys, keys]

namespace Contract

open Codec

theorem address_ships (a : Address) : address.Ships a := viaString_ships (Address.ofKey?_key a)

theorem value_wellFormed (v : Value) : (value.write v).WellFormed := by
  cases v with
  | text s => exact .record (by simpa using (string_ships s).wellFormed)
  | number x => exact .record (by simpa using number_wellFormed x)
  | boolean b => exact .record (by simpa using (bool_ships b).wellFormed)
  | formula s => exact .record (by simpa using (string_ships s).wellFormed)

theorem value_read? (v : Value) :
    value.read? (value.write v) = if v.isFinite then some v else none := by
  cases v with
  | text s => simp [value, Json.record, (string_ships s).read, Value.isFinite, Value.number?]
  | number x =>
    cases finite : x.isFinite <;>
      simp [value, Json.record, number_read?, Value.isFinite, Value.number?, finite]
  | boolean b => simp [value, Json.record, (bool_ships b).read, Value.isFinite, Value.number?]
  | formula s => simp [value, Json.record, (string_ships s).read, Value.isFinite, Value.number?]

theorem value_ships {v : Value} (finite : v.isFinite = true) : value.Ships v :=
  ⟨(value_read? v).trans (if_pos finite), value_wellFormed v⟩

theorem contents_wellFormed (contents : Option Value) :
    (value.option.write contents).WellFormed := by
  cases contents with
  | none => exact .null
  | some v => exact value_wellFormed v

theorem contents_read? (contents : Option Value) :
    value.option.read? (value.option.write contents) =
      if contents.all Value.isFinite then some contents else none := by
  cases contents with
  | none => rfl
  | some v =>
    rw [option_read?_some value (by cases v <;> simp [value, Json.record]), value_read?]
    cases finite : v.isFinite <;> simp [finite]

theorem string_option_ships (s : Option String) : string.option.Ships s := by
  cases s with
  | none => exact option_ships_none string
  | some s => exact (string_ships s).option (by simp [string, Json.text])

theorem changeKind_ships (k : ChangeKind) : changeKind.Ships k :=
  choice_ships (by decide) (by cases k <;> decide)

theorem metadata_ships (m : Metadata) : metadata.Ships m :=
  .map (fun _ => rfl) fun e _ => string_ships e.2

theorem change_wellFormed (c : Change) : (change.write c).WellFormed := by
  refine .record ?_
  simp [(address_ships c.address).wellFormed, contents_wellFormed,
    (string_option_ships c.formula).wellFormed, (bool_ships c.isFormula).wellFormed,
    (changeKind_ships c.kind).wellFormed, (metadata_ships c.metadata).wellFormed]

theorem change_read? (c : Change) :
    change.read? (change.write c) = if c.isFinite then some c else none := by
  rw [record_read? (c := change) (x := c) (fun _ => rfl) rfl rfl (by decide)]
  cases before : c.before.all Value.isFinite <;> cases after : c.after.all Value.isFinite <;>
    simp [required?, optional?, (address_ships c.address).read, contents_read?,
      (string_option_ships c.formula).read, (bool_ships c.isFormula).read,
      (changeKind_ships c.kind).read, (metadata_ships c.metadata).read, Change.isFinite,
      before, after]

theorem change_ships {c : Change} (finite : c.isFinite = true) : change.Ships c :=
  ⟨(change_read? c).trans (if_pos finite), change_wellFormed c⟩

theorem changeSet_ships {changes : ChangeSet} (finite : changes.isFinite = true) :
    changeSet.Ships changes :=
  .map Address.ofKey?_key fun e member =>
    change_ships (ChangeSet.isFinite_iff.mp finite e member)

theorem selection_ships (s : Selection) : selection.Ships s := by
  have cells := Ships.list fun a (_ : a ∈ s.cells) => address_ships a
  refine .record (fun _ => rfl) rfl rfl (by decide) ?_ ?_
  · simp [cells.wellFormed]
  · simp [required?, cells.read, s.ofList_cells]

theorem setOptions_ships {o : SetOptions} (finite : o.value.isFinite = true) :
    setOptions.Ships o := by
  have value := value_ships finite
  have overwrite := bool_ships o.overwrite
  refine .record (fun _ => rfl) rfl rfl (by decide) ?_ ?_
  · simp [value.wellFormed, overwrite.wellFormed]
  · simp [required?, value.read, overwrite.read]

end Contract

end CellLedger
