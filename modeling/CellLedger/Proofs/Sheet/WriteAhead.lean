import CellLedger.Proofs.Batch.Accesses
import CellLedger.Proofs.Sheet.Report
import CellLedger.Proofs.Sheet.Unfaulted

/-!
The accesses of a commit: first those of the capture, which only reads, then all others
(`WritesAhead`). No cell is written before what it held is captured, and a commit that succeeds
reads every cell twice and writes just those that it alters (`commit_writes_ahead`). A commit whose
capture is refused writes back what it has captured so far, and nothing else (`commit_uncaptured`).
-/

set_option autoImplicit false

namespace CellLedger.Sheet

open Store (writeKind)

variable {sheet after : Sheet} {b : Batch} {reads work : List Access}

structure WritesAhead (sheet : Sheet) (b : Batch) (after : Sheet) (reads work : List Access) :
    Prop where
  trace : after.store.trace.toList = sheet.store.trace.toList ++ reads ++ work
  capture : (b.capture sheet.store).2.2.trace.toList = sheet.store.trace.toList ++ reads
  onlyReads : ∀ x ∈ reads, x.kind = .get
  ordered : (reads.map (·.address)).Pairwise (· < ·)
  inside : ∀ x ∈ reads ++ work, Operation.Targeted b.operations x.address
  ahead : ∀ x ∈ work, ⟨.get, x.address, false⟩ ∈ reads ∧
    (b.capture sheet.store).2.1.captured.get? x.address = some (sheet.store.cells.get? x.address)
  keeps : (after.batch? b.id).map (·.captured) = some (b.capture sheet.store).2.1.captured

theorem CarriedOut.captured {outcome : Except BatchError BatchResult × Sheet}
    (carriedOut : CarriedOut sheet b outcome) :
    (outcome.2.batch? b.id).map (·.captured) = some (b.capture sheet.store).2.1.captured := by
  have setback {run : Run} {captured : SortedMap Address (Option Value)} {s : Store}
      {stats : Stats} (setback : Setback sheet b run captured s stats) :
      (b.capture sheet.store).2.1.captured = captured := by
    cases setback with
    | uncaptured capture => rw [capture]
    | abandoned capture => rw [capture]
  cases carriedOut with
  | rolledBack back => simp [batch?_close, setback back]
  | unrestored back => simp [batch?_close, setback back]
  | stuck capture => simp [batch?_close, capture]
  | finished capture => simp [batch?_close, capture]

-- Some cells are read and captured, then perhaps one is refused; only captured cells are worked on.
theorem writesAhead_of_captured {reply : Except StoreError Nat} {read refused : List Address}
    {s : Store} (sound : b.Sound) (first : read ++ refused <+: b.owners.keys)
    (capture : b.capture sheet.store =
      (reply, { b with captured := sheet.store.cells.snapshot read }, s))
    (logs : sheet.store.Logs s (read.map (⟨.get, ·, false⟩) ++ refused.map (⟨.get, ·, true⟩)))
    (works : s.Touches after.store (· ∈ read))
    (keeps : (after.batch? b.id).map (·.captured) = some (b.capture sheet.store).2.1.captured) :
    ∃ work, WritesAhead sheet b after
      (read.map (⟨.get, ·, false⟩) ++ refused.map (⟨.get, ·, true⟩)) work := by
  obtain ⟨work, worked, within⟩ := works
  have targeted : ∀ a ∈ read ++ refused, Operation.Targeted b.operations a :=
    fun a member => sound.owned.mem_owners_iff.1 (first.subset member)
  refine ⟨work, ?_, ?_, ?_, ?_, ?_, fun x member => ⟨?_, ?_⟩, keeps⟩
  · rw [worked.trace, logs.trace]
  · rw [capture, logs.trace]
  · intro x member
    rcases List.mem_append.1 member with member | member <;>
      obtain ⟨a, _, rfl⟩ := List.mem_map.1 member <;> rfl
  · have ascending := b.owners.keys_ascending.sublist first.sublist
    simpa [Function.comp_def] using ascending
  · intro x member
    rcases List.mem_append.1 member with member | member
    · refine targeted x.address ?_
      rcases List.mem_append.1 member with member | member <;>
        obtain ⟨a, listed, rfl⟩ := List.mem_map.1 member <;> simp [listed]
    · exact targeted x.address (List.mem_append_left _ (within x member))
  · exact List.mem_append_left _ (List.mem_map_of_mem (within x member))
  · rw [capture, Cells.get?_snapshot, if_pos (within x member)]

theorem carryOut_writesAhead (sheet : Sheet) (sound : b.Sound) (isOpen : b.isActive = true) :
    ∃ reads work, WritesAhead sheet b (sheet.carryOut b).2 reads work := by
  have keeps := (sheet.carryOut_carriedOut sound isOpen).captured
  have inside {cells : List Address} {a : Address}
      (member : a ∈ (sheet.store.cells.snapshot cells).keys) : a ∈ cells :=
    Cells.mem_keys_snapshot.1 member
  rcases Batch.capture_logs (sound.fresh isOpen) sheet.store with
    ⟨e, s, read, a, rest, split, capture, _, logs⟩ | ⟨s, capture, _, logs⟩
  · have first : read ++ [a] <+: b.owners.keys := ⟨rest, by simp [split]⟩
    refine ⟨_, writesAhead_of_captured sound first capture logs ?_ keeps⟩
    simp only [carryOut, capture]
    exact (rollBackAfter_touches { sheet with store := s } _ _).mono fun _ => inside
  · have first : b.owners.keys ++ [] <+: b.owners.keys := by simp
    refine ⟨_, writesAhead_of_captured sound first capture (by simpa using logs) ?_ keeps⟩
    let captured := { b with captured := sheet.store.cells.snapshot b.owners.keys }
    have runs : s.Touches (captured.run sheet.config.autoRollback s).2 (· ∈ b.owners.keys) :=
      (captured.runFrom_touches sheet.config.autoRollback 0 b.operations s).mono
        fun _ => sound.owned.mem_owners_iff.2
    exact runs.trans ((carryOut_after_run capture rfl).mono fun _ => inside)

theorem WritesAhead.of_finished {n : Nat} {captured : SortedMap Address (Option Value)}
    {s t : Store} {run : Run} (ahead : WritesAhead sheet b after reads work)
    (left : after.store = t) (sound : b.Sound) (isOpen : b.isActive = true)
    (capture : b.capture sheet.store = (.ok n, { b with captured }, s))
    (attempt : Batch.run { b with captured } sheet.config.autoRollback s = (run, t))
    (ran : Ran b.id sheet.config.autoRollback s t b.operations run)
    (ending : run.ending = .finished) (clean : run.errors = []) :
    reads = b.owners.keys.map (⟨.get, ·, false⟩) ∧
      ∀ a ∈ b.owners.keys, accessesTo a work = ⟨.get, a, false⟩ ::
        (((BatchResult.committed b run).changes.get? a).map
          fun c => ⟨writeKind c.after, a, false⟩).toList := by
  obtain ⟨settled, success, _⟩ := ran.of_finished ending
  have captures : sheet.store.Logs s (b.owners.keys.map (⟨.get, ·, false⟩)) := by
    rcases Batch.capture_logs (sound.fresh isOpen) sheet.store with
      ⟨_, _, _, _, _, _, run, _⟩ | ⟨u, run, _, logs⟩
    · simp [run] at capture
    · simp only [run, Prod.mk.injEq] at capture
      exact capture.2.2 ▸ logs
  have runs : s.Logs t (b.operations.flatMap (·.visits s.cells)) :=
    @Batch.run_logs { b with captured } _ _ _ _ attempt sound.owned.apart clean
  have reading : reads = b.owners.keys.map (⟨.get, ·, false⟩) :=
    List.append_cancel_left <| by rw [← ahead.capture, capture, captures.trace]
  have working : work = b.operations.flatMap (·.visits s.cells) := by
    have whole := ahead.trace.symm.trans (left ▸ (captures.trans runs).trace)
    rw [reading, ← List.append_assoc] at whole
    exact List.append_cancel_left whole
  refine ⟨reading, fun a member => ?_⟩
  obtain ⟨op, listed, aimed⟩ := sound.owned.mem_owners_iff.1 member
  obtain ⟨r, reported, head⟩ := exists_settled settled listed
  have effect := head.effect (success.1 clean r reported) a aimed
  rw [Operation.outcome_of_mem aimed] at effect
  rw [working, Operation.accessesTo_flatMap_visits sound.owned.apart listed aimed,
    Operation.visit_of_between (BatchResult.committed_between settled ran.touches) effect]

theorem commit_writes_ahead (reachable : sheet.Reachable) (id : BatchId) (now : Instant) :
    ((sheet.commit id now).2 = sheet ∧
      ∀ result, (sheet.commit id now).1 = .ok result → result.success = false) ∨
    ∃ b reads work, sheet.batch? id = some b ∧
      (∀ a, a ∈ b.owners.keys ↔ Operation.Targeted b.operations a) ∧
      WritesAhead sheet b (sheet.commit id now).2 reads work ∧
      ∀ result, (sheet.commit id now).1 = .ok result → result.success = true →
        reads = b.owners.keys.map (⟨.get, ·, false⟩) ∧
        ∀ a ∈ b.owners.keys, accessesTo a work = ⟨.get, a, false⟩ ::
          ((result.changes.get? a).map fun c => ⟨writeKind c.after, a, false⟩).toList := by
  rcases sheet.commit_cases id now with
    ⟨e, _, run⟩ | ⟨b, held, isOpen, ⟨_, run⟩ | ⟨_, run⟩⟩
  · exact .inl ⟨by rw [run], fun result answer => by simp [run] at answer⟩
  · refine .inl ⟨by rw [run], fun result answer => ?_⟩
    rw [run] at answer
    cases answer
    rfl
  · have batch := (reachable.sound id b held).2
    obtain ⟨reads, work, ahead⟩ := sheet.carryOut_writesAhead batch isOpen
    refine .inr ⟨b, reads, work, held, fun a => batch.owned.mem_owners_iff, ?_, ?_⟩
    · rw [run]
      exact ahead
    intro result answer success
    rw [run] at answer
    have carriedOut := sheet.carryOut_carriedOut batch isOpen
    generalize sheet.carryOut b = outcome at ahead answer carriedOut
    cases carriedOut with
    | rolledBack =>
      cases answer
      simp [BatchResult.rolledBack] at success
    | unrestored => simp at answer
    | stuck => simp at answer
    | finished capture _ attempt ran ending =>
      cases answer
      have clean := List.isEmpty_iff.1 success
      exact ahead.of_finished rfl batch isOpen capture attempt ran ending clean

theorem commit_writes_ahead_equal_cell :
    let sheet := opened (.ofCells ((∅ : Cells).insert ⟨0, 0⟩ (.text "x"))) {}
      (.overwriteText (.range ⟨0, 0⟩ ⟨0, 1⟩) "x")
    sheet.Reachable ∧ ∃ b reads work, sheet.batch? ⟨1⟩ = some b ∧
      WritesAhead sheet b (sheet.commit ⟨1⟩ 2).2 reads work ∧
      reads = [⟨.get, ⟨0, 0⟩, false⟩, ⟨.get, ⟨0, 1⟩, false⟩] ∧
      accessesTo ⟨0, 0⟩ work = [⟨.get, ⟨0, 0⟩, false⟩] ∧
      accessesTo ⟨0, 1⟩ work = [⟨.get, ⟨0, 1⟩, false⟩, ⟨.set, ⟨0, 1⟩, false⟩] := by
  intro sheet
  have reachable : sheet.Reachable := opened_reachable _ _ _
  refine ⟨reachable, ?_⟩
  rcases commit_writes_ahead reachable ⟨1⟩ 2 with
    ⟨_, failed⟩ | ⟨b, reads, work, held, _, ahead, each⟩
  · exact absurd (failed _ rfl) (by decide)
  · obtain ⟨reading, visiting⟩ := each _ rfl rfl
    cases held
    exact ⟨_, reads, work, rfl, ahead, reading, visiting ⟨0, 0⟩ (by decide),
      visiting ⟨0, 1⟩ (by decide)⟩

-- Nothing was written when the capture is given up, so that writing back alters nothing.
theorem commit_uncaptured (reachable : sheet.Reachable) {id : BatchId}
    (held : sheet.batch? id = some b) (isOpen : b.isActive = true) (now : Instant)
    (valid : sheet.objections b now = []) {e : StoreError}
    (uncaptured : (b.capture sheet.store).1 = .error e) :
    ∃ read a rest refused, b.owners.keys = read ++ a :: rest ∧ refused.Sublist read ∧
      (sheet.commit id now).2.store.trace.toList = sheet.store.trace.toList ++
        (read.map (⟨.get, ·, false⟩) ++ [⟨.get, a, true⟩]) ++
        read.map (fun a => ⟨writeKind (sheet.store.cells.get? a), a, decide (a ∈ refused)⟩) ∧
      (sheet.commit id now).2.store.cells = sheet.store.cells ∧
      ((sheet.commit id now).2.batch? id).map (·.state) = some .rolledBack ∧
      ((refused = [] ∧ ∃ result, (sheet.commit id now).1 = .ok result ∧
          result.wasRolledBack = true ∧ result.results = []) ∨
        (refused ≠ [] ∧ ∃ reason,
          (sheet.commit id now).1 = .error (.rollbackFailed id refused reason))) := by
  obtain ⟨rfl, batch⟩ := reachable.sound id b held
  have run : sheet.commit b.id now = sheet.carryOut b := by
    rcases commit_of_open held isOpen now with ⟨invalid, _⟩ | ⟨_, run⟩
    · exact absurd valid invalid
    · exact run
  rcases Batch.capture_logs (batch.fresh isOpen) sheet.store with
    ⟨cause, s, read, a, rest, split, capture, same, logs⟩ | ⟨_, capture, _⟩
  · have ascending : read.Pairwise (· < ·) := by
      have all := b.owners.keys_ascending
      rw [split] at all
      exact all.sublist (List.sublist_append_left _ _)
    let originals := sheet.store.cells.snapshot read
    obtain ⟨refused, back, sublist, contents, answer⟩ := restore_attempts b.id originals s
    have intact : (restore b.id originals s).2.cells = sheet.store.cells := by
      refine SortedMap.ext_get? fun c => ?_
      rw [contents c, same, Cells.get?_snapshot]
      by_cases member : c ∈ read <;> simp [member]
    have trace := (logs.trans back).trace
    rw [Cells.entries_snapshot _ ascending, List.map_map, ← List.append_assoc] at trace
    refine ⟨read, a, rest, refused, split, Cells.keys_snapshot _ ascending ▸ sublist, ?_⟩
    rw [run]
    simp only [carryOut, capture, rollBackAfter, putBack]
    generalize restore b.id originals s = outcome at answer intact trace
    obtain ⟨reply, t⟩ := outcome
    rcases answer with ⟨rfl, none⟩ | ⟨reason, rfl, some⟩
    · exact ⟨trace, intact, state_close, .inl ⟨none, _, rfl, rfl, rfl⟩⟩
    · exact ⟨trace, intact, state_close, .inr ⟨some, reason, rfl⟩⟩
  · simp [capture] at uncaptured

theorem commit_uncaptured_second_read :
    let sheet := opened { faults := { reads := [2] } } {}
      (.overwriteText (.range ⟨0, 0⟩ ⟨0, 1⟩) "x")
    sheet.Reachable ∧ ∃ b, ∃ read refused rest : List Address, ∃ a,
      sheet.batch? ⟨1⟩ = some b ∧ b.isActive = true ∧
      sheet.objections b 2 = [] ∧ (∃ e, (b.capture sheet.store).1 = .error e) ∧
      b.owners.keys = read ++ a :: rest ∧ refused.Sublist read ∧
      (sheet.commit ⟨1⟩ 2).2.store.trace.toList =
        (read.map (⟨.get, ·, false⟩) ++ [⟨.get, a, true⟩]) ++
        read.map (fun a => ⟨writeKind (sheet.store.cells.get? a), a, decide (a ∈ refused)⟩) ∧
      ((sheet.commit ⟨1⟩ 2).2.batch? ⟨1⟩).map (·.state) = some .rolledBack := by
  intro sheet
  have reachable : sheet.Reachable := opened_reachable _ _ _
  have held : sheet.batch? ⟨1⟩ = some _ := rfl
  obtain ⟨read, a, rest, refused, split, sublist, trace, _, state, _⟩ :=
    commit_uncaptured reachable held rfl 2 rfl rfl
  exact ⟨reachable, _, read, refused, rest, a, held, rfl, rfl, ⟨_, rfl⟩, split, sublist, trace,
    state⟩

-- Cells captured before the refused read are written, and such a write can be refused too.
theorem commit_uncaptured_writes_back :
    let sheet := opened { faults := { reads := [2] } } {}
      (.overwriteText (.range ⟨0, 0⟩ ⟨0, 1⟩) "x")
    let stubborn := opened { faults := { reads := [2], cells := [⟨0, 0⟩] } } {}
      (.overwriteText (.range ⟨0, 0⟩ ⟨0, 1⟩) "x")
    (sheet.Reachable ∧ (sheet.batch? ⟨1⟩).any (·.isActive) = true ∧
      (sheet.commit ⟨1⟩ 2).2.store.trace.toList =
        [⟨.get, ⟨0, 0⟩, false⟩, ⟨.get, ⟨0, 1⟩, true⟩, ⟨.delete, ⟨0, 0⟩, false⟩]) ∧
    stubborn.Reachable ∧ (stubborn.batch? ⟨1⟩).any (·.isActive) = true ∧
      (stubborn.commit ⟨1⟩ 2).2.store.trace.toList =
        [⟨.get, ⟨0, 0⟩, false⟩, ⟨.get, ⟨0, 1⟩, true⟩, ⟨.delete, ⟨0, 0⟩, true⟩] ∧
      ∃ reason, (stubborn.commit ⟨1⟩ 2).1 = .error (.rollbackFailed ⟨1⟩ [⟨0, 0⟩] reason) :=
  ⟨⟨opened_reachable _ _ _, rfl, rfl⟩, opened_reachable _ _ _, rfl, rfl, _, rfl⟩

end CellLedger.Sheet
