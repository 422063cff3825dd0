import CellLedger.Proofs.Change.Difference
import CellLedger.Proofs.Sheet.Reachable

/-!
What the result of a commit reports: the records of all operations that took effect, which are
exactly the difference that the commit makes (`commit_changes_between`).
-/

set_option autoImplicit false

namespace CellLedger

namespace BatchResult

variable {results : List OperationResult} {a : Address}

theorem exists_of_get?_consolidate {c : Change} (found : (consolidate results).get? a = some c) :
    ∃ r ∈ results, r.changes.get? a = some c := by
  rcases SortedMap.mem_of_get?_insertAll found with member | none
  · obtain ⟨r, listed, filed⟩ := List.mem_flatMap.1 member
    exact ⟨r, listed, SortedMap.get?_eq_some_iff.2 filed⟩
  · simp at none

theorem get?_eq_none_of_consolidate (absent : (consolidate results).get? a = none) :
    ∀ r ∈ results, r.changes.get? a = none := by
  intro r listed
  rw [SortedMap.get?_eq_none_iff] at absent ⊢
  intro recorded
  refine absent (SortedMap.mem_keys_insertAll.2 (.inr ?_))
  rw [List.map_flatMap]
  exact List.mem_flatMap.2 ⟨r, listed, recorded⟩

theorem entries_distinct
    (apart : results.Pairwise fun r q => ∀ a ∈ r.changes.keys, a ∉ q.changes.keys) :
    ((results.flatMap fun r => r.changes.entries).map Prod.fst).Nodup := by
  rw [List.map_flatMap, List.nodup_flatMap]
  exact ⟨fun r _ => r.changes.keys_nodup, apart.imp fun {r q} apart a => apart a⟩

theorem size_consolidate
    (apart : results.Pairwise fun r q => ∀ a ∈ r.changes.keys, a ∉ q.changes.keys) :
    (consolidate results).size = (results.map (·.changes.size)).foldr (· + ·) 0 := by
  have fresh : ∀ key ∈ (results.flatMap fun r => r.changes.entries).map Prod.fst,
      key ∉ (∅ : ChangeSet).keys := by
    intro key _
    simp
  rw [consolidate, SortedMap.ofList, SortedMap.size_insertAll (entries_distinct apart) fresh,
    List.length_flatMap]
  exact Nat.zero_add _

theorem consolidate_perm {others : List OperationResult} (perm : results.Perm others)
    (apart : results.Pairwise fun r q => ∀ a ∈ r.changes.keys, a ∉ q.changes.keys) :
    consolidate results = consolidate others :=
  SortedMap.ofList_perm (perm.flatMap_right _) (entries_distinct apart)

end BatchResult

section Settled

variable {before after : Cells} {operations : List Operation} {results : List OperationResult}
  {op : Operation} {result : OperationResult} {a : Address}

theorem Settled.tells (settled : Settled before after op result)
    (member : a ∈ op.selection.cells) :
    Change.Tells a (before.get? a) (after.get? a) (result.changes.get? a) := by
  cases settled with
  | kept effect =>
    rw [effect a member]
    exact op.changesOn_tells before a
  | reverted _ intact => exact intact a member

theorem Settled.mem_selection (settled : Settled before after op result)
    (recorded : a ∈ result.changes.keys) : a ∈ op.selection.cells := by
  cases settled with
  | kept => exact Operation.mem_selection_of_mem_changesOn recorded
  | reverted => simp [OperationResult.failed] at recorded

theorem Settled.cellsModified (settled : Settled before after op result) :
    result.cellsModified = result.changes.size := by
  cases settled <;> rfl

theorem changes_apart (apart : operations.Pairwise Operation.Apart)
    (settled : List.Forall₂ (Settled before after) operations results) :
    results.Pairwise fun r q => ∀ a ∈ r.changes.keys, a ∉ q.changes.keys := by
  induction settled with
  | nil => exact .nil
  | @cons op first rest results head tail ih =>
    obtain ⟨apartHead, apartRest⟩ := List.pairwise_cons.1 apart
    refine List.pairwise_cons.2 ⟨fun q reported a recorded recordedToo => ?_, ih apartRest⟩
    obtain ⟨p, listed, settled⟩ := exists_operation tail reported
    exact apartHead p listed a (head.mem_selection recorded) (settled.mem_selection recordedToo)

end Settled

namespace BatchResult

variable {b : Batch} {run : Run} {s t : Store}

theorem committed_between
    (settled : List.Forall₂ (Settled s.cells t.cells) b.operations run.results)
    (touches : s.Touches t (Operation.Targeted b.operations)) :
    (committed b run).changes.Between s.cells t.cells := by
  refine .of_tells fun a => ?_
  cases found : (committed b run).changes.get? a with
  | some c =>
    -- Whichever operation made the record, it tells what became of the cell.
    obtain ⟨r, kept, recorded⟩ := exists_of_get?_consolidate found
    obtain ⟨op, _, head⟩ := exists_operation settled (List.mem_filter.1 kept).1
    have tells := head.tells (head.mem_selection (SortedMap.mem_keys_iff.2 ⟨c, recorded⟩))
    rwa [recorded] at tells
  | none =>
    have absent := get?_eq_none_of_consolidate found
    -- No kept operation altered the cell, and one that failed was put back.
    by_cases targeted : Operation.Targeted b.operations a
    · obtain ⟨op, listed, member⟩ := targeted
      obtain ⟨r, reported, head⟩ := exists_settled settled listed
      by_cases success : r.success = true
      · have tells := head.tells member
        rwa [absent r (List.mem_filter.2 ⟨reported, success⟩)] at tells
      · exact head.intact (by simpa using success) a member
    · exact touches.frame targeted

theorem committed_totalCellsModified (apart : b.operations.Pairwise Operation.Apart)
    (settled : List.Forall₂ (Settled s.cells t.cells) b.operations run.results) :
    (committed b run).totalCellsModified = (committed b run).changes.size := by
  -- Records of two operations never share a cell, so that their numbers add up.
  have apartKept := (changes_apart apart settled).filter (·.success)
  refine Eq.trans ?_ (size_consolidate apartKept).symm
  refine congrArg (List.foldr (· + ·) 0) (List.map_congr_left fun r kept => ?_)
  obtain ⟨op, _, head⟩ := exists_operation settled (List.mem_filter.1 kept).1
  exact head.cellsModified

end BatchResult

namespace Sheet

theorem commit_changes_between {sheet : Sheet} (reachable : sheet.Reachable) {id : BatchId}
    {now : Instant} {result : BatchResult} (answer : (sheet.commit id now).1 = .ok result) :
    result.changes.Between sheet.store.cells (sheet.commit id now).2.store.cells ∧
      result.totalCellsModified = result.changes.size := by
  rcases sheet.commit_cases id now with
    ⟨e, _, run⟩ | ⟨b, held, isOpen, ⟨_, run⟩ | ⟨_, run⟩⟩
  · simp [run] at answer
  · rw [run] at answer ⊢
    cases answer
    exact ⟨.empty _, rfl⟩
  · have batch := (reachable.sound id b held).2
    have carriedOut := sheet.carryOut_carriedOut batch isOpen
    rw [run] at answer ⊢
    generalize sheet.carryOut b = outcome at carriedOut answer ⊢
    cases carriedOut with
    | rolledBack _ intact =>
      cases answer
      simp only [close, intact]
      exact ⟨.empty _, rfl⟩
    | unrestored => simp at answer
    | stuck => simp at answer
    | finished _ same _ ran ending =>
      cases answer
      obtain ⟨settled, _, _⟩ := ran.of_finished ending
      refine ⟨?_, BatchResult.committed_totalCellsModified batch.owned.apart settled⟩
      rw [← same]
      exact BatchResult.committed_between settled ran.touches

theorem commit_changes_between_equal_cell :
    let sheet := opened (.ofCells ((∅ : Cells).insert ⟨0, 0⟩ (.text "x"))) {}
      (.overwriteText (.range ⟨0, 0⟩ ⟨0, 1⟩) "x")
    ∃ result, (sheet.commit ⟨1⟩ 2).1 = .ok result ∧ result.changes.keys = [⟨0, 1⟩] ∧
      result.changes.Between sheet.store.cells (sheet.commit ⟨1⟩ 2).2.store.cells := by
  intro sheet
  exact ⟨_, rfl, rfl, (commit_changes_between (opened_reachable _ _ _) rfl).1⟩

end Sheet

end CellLedger
