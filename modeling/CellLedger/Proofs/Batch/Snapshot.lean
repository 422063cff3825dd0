import CellLedger.Proofs.Batch.Ownership
import CellLedger.Proofs.Batch.Restore

/-!
Capturing contents and putting them back. A capture is a snapshot of the cells read so far
(`capture_cases`); putting a snapshot back leaves every cell that is not refused as it was when the
snapshot was taken (`restore_snapshot`).
-/

set_option autoImplicit false

namespace CellLedger

def Cells.snapshot (contents : Cells) (cells : List Address) : SortedMap Address (Option Value) :=
  .ofList (cells.map fun a => (a, contents.get? a))

namespace Cells

theorem get?_snapshot (contents : Cells) (cells : List Address) (a : Address) :
    (contents.snapshot cells).get? a = if a ∈ cells then some (contents.get? a) else none :=
  SortedMap.get?_insertAll_map

theorem mem_keys_snapshot {contents : Cells} {cells : List Address} {a : Address} :
    a ∈ (contents.snapshot cells).keys ↔ a ∈ cells := by
  rw [SortedMap.mem_keys_iff, get?_snapshot]
  by_cases member : a ∈ cells <;> simp [member]

theorem entries_snapshot (contents : Cells) {cells : List Address}
    (ascending : cells.Pairwise (· < ·)) :
    (contents.snapshot cells).entries = cells.map fun a => (a, contents.get? a) := by
  let direct : SortedMap Address (Option Value) :=
    ⟨cells.map fun a => (a, contents.get? a), List.pairwise_map.2 ascending⟩
  have same : contents.snapshot cells = direct := by
    refine SortedMap.ext_get? fun a => ?_
    ext held
    rw [get?_snapshot, SortedMap.get?_eq_some_iff]
    by_cases member : a ∈ cells <;> simp [direct, member, eq_comm]
  rw [same]

theorem keys_snapshot (contents : Cells) {cells : List Address}
    (ascending : cells.Pairwise (· < ·)) : (contents.snapshot cells).keys = cells := by
  simp [SortedMap.keys, entries_snapshot contents ascending, Function.comp_def]

theorem snapshot_congr {contents other : Cells} {cells : List Address}
    (same : ∀ a ∈ cells, contents.get? a = other.get? a) :
    contents.snapshot cells = other.snapshot cells := by
  refine SortedMap.ext_get? fun a => ?_
  rw [get?_snapshot, get?_snapshot]
  by_cases member : a ∈ cells
  · simp [member, same a member]
  · simp [member]

end Cells

namespace Batch

-- Every cell is read once, in order; the first refused read ends the capture.
theorem captureCells_logs (cells : List Address) (captured : SortedMap Address (Option Value))
    (s : Store) :
    (∃ e t read a rest, cells = read ++ a :: rest ∧
        captureCells cells captured s =
          (.error e, captured.insertAll (read.map fun a => (a, s.cells.get? a)), t) ∧
        t.cells = s.cells ∧ s.Logs t (read.map (⟨.get, ·, false⟩) ++ [⟨.get, a, true⟩])) ∨
      ∃ t, captureCells cells captured s =
          (.ok (), captured.insertAll (cells.map fun a => (a, s.cells.get? a)), t) ∧
        t.cells = s.cells ∧ s.Logs t (cells.map (⟨.get, ·, false⟩)) := by
  induction cells generalizing captured s with
  | nil => exact .inr ⟨s, rfl, rfl, .refl s⟩
  | cons a rest ih =>
    rcases s.get_logs a with ⟨e, t, read, cells, logs⟩ | ⟨t, read, cells, logs⟩
    · refine .inl ⟨e, t, [], a, rest, rfl, ?_, cells, logs⟩
      simp only [captureCells, read]
      rfl
    · rcases ih (captured.insert a (s.cells.get? a)) t with
        ⟨e, u, done, b, later, split, run, cellsAfter, logsRest⟩ | ⟨u, run, cellsAfter, logsRest⟩
      · refine .inl ⟨e, u, a :: done, b, later, by simp [split], ?_, cellsAfter.trans cells,
          logs.trans logsRest⟩
        simp only [captureCells, read, run, cells]
        rfl
      · refine .inr ⟨u, ?_, cellsAfter.trans cells, logs.trans logsRest⟩
        simp only [captureCells, read, run, cells]
        rfl

theorem refuses_of_readings {s t : Store} {read rest : List Address} {a : Address}
    (logs : s.Logs t (read.map (⟨.get, ·, false⟩) ++ [⟨.get, a, true⟩])) :
    s.Refuses t (· ∈ read ++ a :: rest) := by
  refine ⟨_, logs, fun x member => ?_, ⟨.get, a, true⟩, by simp, rfl⟩
  rcases List.mem_append.1 member with member | member
  · obtain ⟨b, listed, rfl⟩ := List.mem_map.1 member
    exact List.mem_append_left _ listed
  · obtain rfl := List.mem_singleton.1 member
    simp

theorem touches_of_readings {s t : Store} {cells : List Address}
    (logs : s.Logs t (cells.map (⟨.get, ·, false⟩))) : s.Touches t (· ∈ cells) := by
  refine ⟨_, logs, fun x member => ?_⟩
  obtain ⟨b, listed, rfl⟩ := List.mem_map.1 member
  exact listed

theorem capture_touches (b : Batch) (s : Store) :
    s.Touches (b.capture s).2.2 (· ∈ b.uncaptured) := by
  rcases captureCells_logs b.uncaptured b.captured s with
    ⟨_, _, _, _, _, split, run, _, logs⟩ | ⟨_, run, _, logs⟩
  · simp only [capture, run]
    exact (split ▸ refuses_of_readings logs).touches
  · simp only [capture, run]
    exact touches_of_readings logs

theorem uncaptured_of_fresh {b : Batch} (fresh : b.captured = ∅) :
    b.uncaptured = b.owners.keys := by
  simp [uncaptured, fresh, SortedMap.contains]

-- The first capture of a batch: a refused read ends it with the cells before it captured.
theorem capture_logs {b : Batch} (fresh : b.captured = ∅) (s : Store) :
    (∃ e t read a rest, b.owners.keys = read ++ a :: rest ∧
        b.capture s = (.error e, { b with captured := s.cells.snapshot read }, t) ∧
        t.cells = s.cells ∧ s.Logs t (read.map (⟨.get, ·, false⟩) ++ [⟨.get, a, true⟩])) ∨
      ∃ t, b.capture s =
          (.ok b.owners.size, { b with captured := s.cells.snapshot b.owners.keys }, t) ∧
        t.cells = s.cells ∧ s.Logs t (b.owners.keys.map (⟨.get, ·, false⟩)) := by
  rcases captureCells_logs b.owners.keys ∅ s with
    ⟨e, t, read, a, rest, split, run, cells, logs⟩ | ⟨t, run, cells, logs⟩
  · refine .inl ⟨e, t, read, a, rest, split, ?_, cells, logs⟩
    simp only [capture, uncaptured_of_fresh fresh, fresh, run]
    rfl
  · refine .inr ⟨t, ?_, cells, logs⟩
    simp only [capture, uncaptured_of_fresh fresh, fresh, run, ← SortedMap.size_eq_length_keys]
    rfl

theorem capture_cases {b : Batch} (fresh : b.captured = ∅) (s : Store) :
    (∃ e t read a rest, b.owners.keys = read ++ a :: rest ∧
        b.capture s = (.error e, { b with captured := s.cells.snapshot read }, t) ∧
        t.cells = s.cells ∧ s.Refuses t (· ∈ b.owners.keys)) ∨
      ∃ t, b.capture s =
          (.ok b.owners.size, { b with captured := s.cells.snapshot b.owners.keys }, t) ∧
        t.cells = s.cells ∧ s.Touches t (· ∈ b.owners.keys) := by
  rcases capture_logs fresh s with
    ⟨e, t, read, a, rest, split, run, cells, logs⟩ | ⟨t, run, cells, logs⟩
  · exact .inl ⟨e, t, read, a, rest, split, run, cells, split ▸ refuses_of_readings logs⟩
  · exact .inr ⟨t, run, cells, touches_of_readings logs⟩

theorem captured_of_capture_ok {b : Batch} (fresh : b.captured = ∅)
    {captured : SortedMap Address (Option Value)} {s t : Store} {n : Nat}
    (capture : b.capture s = (.ok n, { b with captured }, t)) :
    captured = s.cells.snapshot b.owners.keys := by
  rcases capture_cases fresh s with ⟨_, _, _, _, _, _, run, _⟩ | ⟨_, run, _⟩
  · simp [run] at capture
  · simpa using congrArg (fun outcome => outcome.2.1.captured) (capture.symm.trans run)

theorem captured_of_capture_error {b : Batch} (fresh : b.captured = ∅)
    {captured : SortedMap Address (Option Value)} {s t : Store} {e : StoreError}
    (capture : b.capture s = (.error e, { b with captured }, t)) :
    ∃ read, read <+: b.owners.keys ∧ captured = s.cells.snapshot read := by
  rcases capture_cases fresh s with ⟨_, _, read, a, rest, split, run, _⟩ | ⟨_, run, _⟩
  · refine ⟨read, split ▸ List.prefix_append read (a :: rest), ?_⟩
    simpa using congrArg (fun outcome => outcome.2.1.captured) (capture.symm.trans run)
  · simp [run] at capture

end Batch

-- A snapshot is put back onto contents that were altered at most in its cells.
theorem restore_snapshot {before : Cells} {cells : List Address} {s : Store}
    (elsewhere : ∀ a, a ∉ cells → s.cells.get? a = before.get? a) (id : BatchId) :
    (∃ refused reason t, restore id (before.snapshot cells) s =
          (.error (.rollbackFailed id refused reason), t) ∧
        (∀ a ∈ refused, a ∈ cells) ∧ (∀ a, a ∉ refused → t.cells.get? a = before.get? a) ∧
        s.Touches t (· ∈ cells)) ∨
      ∃ n t, restore id (before.snapshot cells) s = (.ok n, t) ∧ t.cells = before ∧
        s.Touches t (· ∈ cells) := by
  have original (a : Address) :
      ((before.snapshot cells).get? a).getD (s.cells.get? a) = before.get? a := by
    rw [Cells.get?_snapshot]
    by_cases member : a ∈ cells
    · simp [member]
    · simp [member, elsewhere a member]
  have inside : ∀ a ∈ (before.snapshot cells).keys, a ∈ cells := fun a => Cells.mem_keys_snapshot.1
  rcases restore_cases id (before.snapshot cells) s with
    ⟨refused, reason, t, run, sublist, touches, contents⟩ | ⟨t, run, touches, contents⟩
  · refine .inl ⟨refused, reason, t, run, fun a member => inside a (sublist.subset member),
      fun a accepted => ?_, touches.mono inside⟩
    rw [contents a, if_neg accepted, original a]
  · refine .inr ⟨_, t, run, SortedMap.ext_get? fun a => ?_, touches.mono inside⟩
    rw [contents a, original a]

end CellLedger
