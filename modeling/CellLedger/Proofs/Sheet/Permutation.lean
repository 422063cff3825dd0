import CellLedger.Proofs.Sheet.Preview
import CellLedger.Proofs.Sheet.Registration

/-!
The order of the operations in a batch. It decides neither which operations are accepted nor what a
commit of them does (`commit_permuted`), since they target disjoint cells and the limits are on
their number and on that of their cells.
-/

set_option autoImplicit false

namespace CellLedger

namespace Operation

variable {operations others : List Operation}

theorem Apart.symm {p q : Operation} (apart : p.Apart q) : q.Apart p := by
  intro a member memberToo
  exact apart a memberToo member

theorem apart_perm (perm : operations.Perm others) (apart : operations.Pairwise Apart) :
    others.Pairwise Apart :=
  (perm.pairwise_iff Apart.symm).1 apart

theorem applyAll_perm (perm : operations.Perm others) (apart : operations.Pairwise Apart)
    (cells : Cells) : applyAll operations cells = applyAll others cells := by
  have apartToo := apart_perm perm apart
  refine SortedMap.ext_get? fun a => ?_
  by_cases targeted : Targeted operations a
  · obtain ⟨op, listed, member⟩ := targeted
    rw [get?_applyAll_of_mem apart listed member,
      get?_applyAll_of_mem apartToo (perm.mem_iff.1 listed) member]
  · have untargeted : ¬ Targeted others a := by
      rintro ⟨op, listed, member⟩
      exact targeted ⟨op, perm.mem_iff.2 listed, member⟩
    rw [get?_applyAll_of_not_targeted targeted, get?_applyAll_of_not_targeted untargeted]

theorem length_reports (operations : List Operation) (cells : Cells) :
    (reports operations cells).length = operations.length := by
  induction operations generalizing cells with
  | nil => rfl
  | cons op rest ih => simp [reports, ih]

theorem reports_perm (perm : operations.Perm others) (apart : operations.Pairwise Apart)
    (cells : Cells) : (reports operations cells).Perm (reports others cells) := by
  rw [reports_of_apart apart, reports_of_apart (apart_perm perm apart)]
  exact perm.map _

-- Each operation keeps its own report, wherever it stands.
theorem zip_reports_perm (perm : operations.Perm others) (apart : operations.Pairwise Apart)
    (cells : Cells) :
    (operations.zip (reports operations cells)).Perm (others.zip (reports others cells)) := by
  have paired (listed : List Operation) :
      listed.zip (listed.map fun op => op.report cells) =
        listed.map fun op => (op, op.report cells) := by
    induction listed with
    | nil => rfl
    | cons op rest ih => simp [ih]
  rw [reports_of_apart apart, reports_of_apart (apart_perm perm apart), paired, paired]
  exact perm.map _

theorem changes_reports_apart (apart : operations.Pairwise Apart) (cells : Cells) :
    (reports operations cells).Pairwise fun r q => ∀ a ∈ r.changes.keys, a ∉ q.changes.keys := by
  rw [reports_of_apart apart, List.pairwise_map]
  refine apart.imp fun {p q} apart a recorded recordedToo => ?_
  exact apart a (mem_selection_of_mem_changesOn recorded)
    (mem_selection_of_mem_changesOn recordedToo)

end Operation

/-- Two results that differ only in the order of the operations, each of which has its own result
in both. -/
structure BatchResult.Reordered (operations others : List Operation) (r q : BatchResult) :
    Prop where
  success : q.success = r.success
  changes : q.changes = r.changes
  total : q.totalCellsModified = r.totalCellsModified
  complete : r.success = true →
    r.results.length = operations.length ∧ q.results.length = others.length
  results : (operations.zip r.results).Perm (others.zip q.results)

namespace Batch

variable {b c : Batch} {config : SheetConfig} {now : Instant}

/-- The same batch, but for the order in which its operations were registered. -/
structure Permuted (b c : Batch) : Prop where
  state : c.state = b.state
  startedAt : c.startedAt = b.startedAt
  operations : b.operations.Perm c.operations

theorem Permuted.problems_iff (permuted : b.Permuted c) :
    b.problems config now = [] ↔ c.problems config now = [] := by
  have empty : b.operations = [] ↔ c.operations = [] := by
    rw [← List.length_eq_zero_iff, permuted.operations.length_eq, List.length_eq_zero_iff]
  simp only [problems_eq_nil_iff, isActive, permuted.state, permuted.startedAt, ne_eq, empty,
    permuted.operations.mem_iff]

theorem Permuted.answer (permuted : b.Permuted c) (apart : b.operations.Pairwise Operation.Apart)
    (cells : Cells) {problems others : List String} (agree : problems = [] ↔ others = []) :
    BatchResult.Reordered b.operations c.operations (b.answer cells problems)
      (c.answer cells others) := by
  have perm := permuted.operations
  by_cases none : problems = []
  · have kept := (Operation.reports_perm perm apart cells).filter (·.success)
    have recorded := (Operation.changes_reports_apart apart cells).filter (·.success)
    rw [none, agree.1 none]
    constructor
    · rfl
    · exact (BatchResult.consolidate_perm kept recorded).symm
    · exact (kept.map (·.cellsModified)).symm.sum_nat
    · intro _
      simp [Batch.answer, BatchResult.committed, Operation.length_reports]
    · exact Operation.zip_reports_perm perm apart cells
  · obtain ⟨problem, rest, rfl⟩ := List.exists_cons_of_ne_nil none
    obtain ⟨other, more, rfl⟩ := List.exists_cons_of_ne_nil (mt agree.2 none)
    constructor <;> simp [Batch.answer, BatchResult.rejected]

end Batch

namespace Sheet

-- Registers the operations one by one, up to the first that is refused.
def addAll (sheet : Sheet) (id : BatchId) : List Operation → Except BatchError Unit × Sheet
  | [] => (.ok (), sheet)
  | op :: rest =>
    match sheet.add id op with
    | (.error e, sheet) => (.error e, sheet)
    | (.ok (), sheet) => sheet.addAll id rest

variable {sheet filled : Sheet} {id : BatchId} {b : Batch} {operations others : List Operation}

theorem add_tracks {c : Batch} {op : Operation} (reachable : sheet.Reachable)
    (held : sheet.batch? id = some b) (added : b.add op sheet.config = .ok c) :
    sheet.add id op = (.ok (), sheet.putBatch c) ∧ (sheet.putBatch c).Reachable ∧
      (sheet.putBatch c).batch? id = some c := by
  have run : sheet.add id op = (.ok (), sheet.putBatch c) := by
    simp only [add, find, held, added]
  have called := Reachable.call reachable 0 (.add id op)
  have tracked := batch?_step_add reachable.sound held added 0
  rw [step] at tracked
  rw [call, run] at called tracked
  exact ⟨run, called, tracked⟩

theorem batch?_addAll (reachable : sheet.Reachable) (held : sheet.batch? id = some b)
    (accepted : sheet.addAll id operations = (.ok (), filled)) :
    filled.Reachable ∧ filled.config = sheet.config ∧
      ∃ owners, filled.batch? id =
        some { b with operations := b.operations ++ operations, owners } := by
  induction operations generalizing sheet b with
  | nil =>
    cases accepted
    exact ⟨reachable, rfl, b.owners, by simp [held]⟩
  | cons op rest ih =>
    rcases sheet.add_cases id op with ⟨e, run⟩ | ⟨_, c, heldToo, added, _⟩
    · simp [addAll, run] at accepted
    · rw [held] at heldToo
      cases heldToo
      obtain ⟨run, next, tracked⟩ := add_tracks reachable held added
      rw [addAll, run] at accepted
      obtain ⟨reached, config, owners, found⟩ := ih next tracked accepted
      obtain ⟨_, _, _, _, rfl⟩ := Batch.add_eq_ok added
      exact ⟨reached, config, owners, by simp [found]⟩

theorem addAll_of_apart (reachable : sheet.Reachable) (held : sheet.batch? id = some b)
    (isOpen : b.isActive = true) (apart : (b.operations ++ operations).Pairwise Operation.Apart)
    (room : (b.operations ++ operations).length ≤ sheet.config.maxOperations)
    (fits : ((b.operations ++ operations).map (·.selection.count)).sum ≤ sheet.config.maxCells) :
    ∃ filled, sheet.addAll id operations = (.ok (), filled) := by
  induction operations generalizing sheet b with
  | nil => exact ⟨sheet, rfl⟩
  | cons op rest ih =>
    rw [List.append_cons] at apart room fits
    have apartSoFar := (List.pairwise_append.1 apart).1
    have roomSoFar : (b.operations ++ [op]).length ≤ sheet.config.maxOperations := by
      rw [List.length_append] at room
      omega
    have fitsSoFar :
        ((b.operations ++ [op]).map (·.selection.count)).sum ≤ sheet.config.maxCells := by
      rw [List.map_append, List.sum_append] at fits
      omega
    have owned := (reachable.sound id b held).2.owned
    obtain ⟨c, added⟩ :=
      owned.add_of_apart (reachable.within id b held) isOpen apartSoFar roomSoFar fitsSoFar
    obtain ⟨run, next, tracked⟩ := add_tracks reachable held added
    obtain ⟨_, _, _, _, rfl⟩ := Batch.add_eq_ok added
    rw [addAll, run]
    exact ih next tracked isOpen apart room fits

theorem objections_permuted {other : Sheet} {c : Batch} (config : other.config = sheet.config)
    (permuted : b.Permuted c) (now : Instant) :
    sheet.objections b now = [] ↔ other.objections c now = [] := by
  rw [objections, objections, config]
  split
  · exact permuted.problems_iff
  · rfl

theorem commit_permuted (reachable : sheet.Reachable) (held : sheet.batch? id = some b)
    (isOpen : b.isActive = true) (accepted : sheet.addAll id operations = (.ok (), filled))
    (perm : operations.Perm others) :
    ∃ other, sheet.addAll id others = (.ok (), other) ∧
      ∀ (s t : Store) (now : Instant), t.cells = s.cells →
        let first := commit { filled with store := s } id now
        let second := commit { other with store := t } id now
        s.Unhindered first.2.store → t.Unhindered second.2.store →
        ∃ r q, first.1 = .ok r ∧ second.1 = .ok q ∧
          second.2.store.cells = first.2.store.cells ∧
          r.Reordered (b.operations ++ operations) (b.operations ++ others) q := by
  obtain ⟨reached, config, owners, found⟩ := batch?_addAll reachable held accepted
  have both : (b.operations ++ operations).Perm (b.operations ++ others) :=
    perm.append_left b.operations
  have apart : (b.operations ++ operations).Pairwise Operation.Apart :=
    (reached.sound id _ found).2.owned.apart
  have within := reached.within id _ found
  rw [config] at within
  -- None of what is asked of the operations depends on their order.
  have room : (b.operations ++ others).length ≤ sheet.config.maxOperations := by
    rw [← both.length_eq]
    exact within.operations
  have fits : ((b.operations ++ others).map (·.selection.count)).sum ≤ sheet.config.maxCells := by
    rw [← (both.map (·.selection.count)).sum_nat]
    exact within.counted ▸ within.cells
  obtain ⟨other, acceptedToo⟩ :=
    addAll_of_apart reachable held isOpen (Operation.apart_perm both apart) room fits
  obtain ⟨reachedToo, configToo, ownersToo, foundToo⟩ := batch?_addAll reachable held acceptedToo
  refine ⟨other, acceptedToo, ?_⟩
  intro s t now same first second clear clearToo
  let c : Batch := { b with operations := b.operations ++ operations, owners }
  let d : Batch := { b with operations := b.operations ++ others, owners := ownersToo }
  have permuted : c.Permuted d := ⟨rfl, rfl, both⟩
  have sound : Sound { filled with store := s } := reached.sound.of_batches_eq rfl
  have soundToo : Sound { other with store := t } := reachedToo.sound.of_batches_eq rfl
  obtain ⟨answer, cells⟩ := commit_of_unhindered (b := c) sound found isOpen clear
  obtain ⟨answerToo, cellsToo⟩ := commit_of_unhindered (b := d) soundToo foundToo isOpen clearToo
  have agree : objections { filled with store := s } c now = [] ↔
      objections { other with store := t } d now = [] :=
    objections_permuted (configToo.trans config.symm) permuted now
  have reordered := permuted.answer apart s.cells agree
  simp only [same] at answerToo cellsToo
  refine ⟨_, _, answer, answerToo, ?_, reordered⟩
  rw [cells, cellsToo, reordered.success, Operation.applyAll_perm both apart]

theorem commit_permuted_clear_first :
    let first : Operation := .overwriteText (.single ⟨1, 0⟩) "x"
    let fill : Operation := .setValue
      { selection := .range ⟨0, 0⟩ ⟨0, 2⟩, options := ⟨.text "y", false⟩, writable := rfl }
    let clear : Operation := .clear (.single ⟨0, 3⟩)
    let contents := ((∅ : Cells).insert ⟨0, 1⟩ (.text "z")).insert ⟨0, 3⟩ (.text "z")
    let sheet := opened (.ofCells contents) {} first
    let filled := (sheet.addAll ⟨1⟩ [fill, clear]).2
    let other := (sheet.addAll ⟨1⟩ [clear, fill]).2
    ∃ r q, (filled.commit ⟨1⟩ 3).1 = .ok r ∧ (other.commit ⟨1⟩ 3).1 = .ok q ∧
      r.success = true ∧
      r.results.map (·.cellsModified) = [1, 2, 1] ∧ q.results.map (·.cellsModified) = [1, 1, 2] ∧
      (other.commit ⟨1⟩ 3).2.store.cells = (filled.commit ⟨1⟩ 3).2.store.cells ∧
      r.Reordered [first, fill, clear] [first, clear, fill] q := by
  intro first fill clear contents sheet filled other
  have reachable : sheet.Reachable := opened_reachable _ _ _
  have held : sheet.batch? ⟨1⟩ = some _ := rfl
  have accepted : sheet.addAll ⟨1⟩ [fill, clear] = (.ok (), filled) := rfl
  have acceptedToo : sheet.addAll ⟨1⟩ [clear, fill] = (.ok (), other) := rfl
  have same : other.store.cells = filled.store.cells := rfl
  have heldFilled : filled.batch? ⟨1⟩ = some _ := rfl
  have heldOther : other.batch? ⟨1⟩ = some _ := rfl
  have calm := (commit_touches heldFilled rfl 3).unhindered rfl
  have calmToo := (commit_touches heldOther rfl 3).unhindered rfl
  have told : (filled.commit ⟨1⟩ 3).1.toOption.map
      (fun r => (r.success, r.results.map (·.cellsModified))) = some (true, [1, 2, 1]) := by
    decide +kernel
  have toldToo : (other.commit ⟨1⟩ 3).1.toOption.map (·.results.map (·.cellsModified)) =
      some [1, 1, 2] := by
    decide +kernel
  obtain ⟨turned, answers, agree⟩ :=
    commit_permuted reachable held rfl accepted (List.Perm.swap clear fill [])
  clear_value filled other
  rw [acceptedToo] at answers
  cases answers
  obtain ⟨r, q, answer, answerToo, cells, reordered⟩ := agree _ _ 3 same calm calmToo
  rw [answer] at told
  rw [answerToo] at toldToo
  simp only [Except.toOption, Option.map_some, Option.some.injEq, Prod.mk.injEq] at told toldToo
  exact ⟨r, q, answer, answerToo, told.1, told.2, toldToo, cells, reordered⟩

end Sheet

end CellLedger
