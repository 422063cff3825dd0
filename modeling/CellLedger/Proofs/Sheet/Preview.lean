import CellLedger.Proofs.Operation.Preview
import CellLedger.Proofs.Sheet.Classification
import CellLedger.Proofs.Sheet.Unfaulted

/-!
What the preview of a batch tells of its commit. All previews are taken of the same contents, but
the operations target disjoint cells, so that each still finds what its preview found
(`reports_of_apart`, `preview_foretells`).
-/

set_option autoImplicit false

namespace CellLedger

theorem Operation.reports_of_apart {operations : List Operation}
    (apart : operations.Pairwise Apart) (cells : Cells) :
    reports operations cells = operations.map fun op => op.report cells := by
  induction operations generalizing cells with
  | nil => rfl
  | cons op rest ih =>
    obtain ⟨apartHead, apartRest⟩ := List.pairwise_cons.1 apart
    rw [reports, ih apartRest, List.map_cons]
    congr 1
    refine List.map_congr_left fun p listed => report_congr fun a member => ?_
    -- The first operation leaves the cells of the others alone.
    rw [get?_apply_of_not_mem fun memberToo => apartHead p listed a memberToo member]

/-- The preview tells what the commit of all operations reports, one operation after another. -/
structure BatchPreview.Foretells (p : BatchPreview) (limit : Nat) (result : BatchResult) :
    Prop where
  success : result.success = true
  operations : List.Forall₂ (fun q r => q.Foretells limit r) p.previews result.results
  total : p.totalCellsModified = result.totalCellsModified

namespace Batch

def previewsOf (operations : List Operation) (cells : Cells) (limit : Nat) :
    List OperationPreview :=
  operations.map fun op => op.previewOf (op.prospects cells) limit

theorem previewOperations_of_readable (limit : Option Nat) (operations : List Operation) {s : Store}
    (readable : s.Readable) :
    ∃ reads trace, previewOperations limit operations s =
      (.ok (previewsOf operations s.cells (limit.getD Operation.defaultLimit)),
        { s with reads, trace }) := by
  induction operations generalizing s with
  | nil => exact ⟨s.reads, s.trace, rfl⟩
  | cons op rest ih =>
    obtain ⟨reads, trace, later, run⟩ := op.preview_of_readable limit readable
    obtain ⟨readsAll, traceAll, runAll⟩ := ih (readable.later later trace)
    refine ⟨readsAll, traceAll, ?_⟩
    simp only [previewOperations, run, runAll]
    rfl

theorem isClean_previewOf (b : Batch) (config : SheetConfig) (now : Instant) (cells : Cells)
    (limit : Nat) :
    (b.previewOf config now (previewsOf b.operations cells limit)).isClean = true ↔
      b.problems config now = [] := by
  -- What the previews of the operations object to is among the problems of the batch.
  have agree (valid : b.problems config now = []) :
      ∀ op ∈ b.operations, (op.previewOf (op.prospects cells) limit).errors = [] :=
    fun op listed => by simp [Operation.previewOf, (problems_eq_nil_iff.1 valid).2.2.2 op listed]
  constructor
  · intro clean
    simp only [BatchPreview.isClean, previewOf, Bool.and_eq_true, List.isEmpty_iff] at clean
    exact clean.1
  · intro valid
    simpa [BatchPreview.isClean, previewOf, previewsOf, valid] using agree valid

theorem previewOf_foretells {b : Batch} (apart : b.operations.Pairwise Operation.Apart)
    (config : SheetConfig) (now : Instant) (cells : Cells) (limit : Nat) :
    (b.previewOf config now (previewsOf b.operations cells limit)).Foretells limit
      (b.answer cells []) := by
  have foretells (op : Operation) := op.previewOf_foretells cells limit
  have modified (op : Operation) :
      (op.previewOf (op.prospects cells) limit).cellsModified = (op.report cells).cellsModified :=
    (foretells op).modified
  have kept : (b.operations.map fun op => op.report cells).filter (·.success) =
      b.operations.map fun op => op.report cells :=
    List.filter_eq_self.2 (by simp)
  refine ⟨rfl, ?_, ?_⟩
  · simp only [answer, BatchResult.committed, previewOf, previewsOf,
      Operation.reports_of_apart apart]
    exact List.forall₂_map_left_iff.2 (List.forall₂_map_right_iff.2
      (List.forall₂_same.2 fun op _ => foretells op))
  · simp [answer, BatchResult.committed, previewOf, previewsOf, Operation.reports_of_apart apart,
      kept, modified, Function.comp_def]

end Batch

namespace Sheet

variable {sheet : Sheet} {b : Batch} {id : BatchId}

theorem preview_foretells (reachable : sheet.Reachable) (held : sheet.batch? id = some b)
    (isOpen : b.isActive = true) (readable : sheet.store.Readable) (limit : Option Nat)
    (now : Instant) :
    ∃ p reads trace,
      sheet.preview id limit now =
        (.ok p, { sheet with store := { sheet.store with reads, trace } }) ∧
      p.previews.length = b.operations.length ∧
      (∀ (store : Store) (later : Instant), store.cells = sheet.store.cells →
        let outcome := { sheet with store }.commit id later
        told id outcome ≠ .rejected → store.Unhindered outcome.2.store →
          ∃ result, outcome.1 = .ok result ∧
            p.Foretells (limit.getD Operation.defaultLimit) result) ∧
      (p.isClean = true ↔ sheet.validate id now = .ok []) ∧
      (sheet.config.validateFirst = true → ∀ store : Store,
        (p.isClean = true ↔ told id ({ sheet with store }.commit id now) ≠ .rejected)) := by
  obtain ⟨rfl, batch⟩ := reachable.sound id b held
  obtain ⟨reads, trace, run⟩ := Batch.previewOperations_of_readable limit b.operations readable
  have found := findActive_eq_ok.2 ⟨held, isOpen⟩
  let previews := Batch.previewsOf b.operations sheet.store.cells
    (limit.getD Operation.defaultLimit)
  have clean : (b.previewOf sheet.config now previews).isClean = true ↔
      b.problems sheet.config now = [] := b.isClean_previewOf sheet.config now _ _
  -- Whether a commit is rejected does not depend on the store.
  have rejected (store : Store) (later : Instant) :
      told b.id ({ sheet with store }.commit b.id later) ≠ .rejected ↔
        sheet.objections b later = [] := by
    let exchanged : Sheet := { sheet with store }
    have heldStill : exchanged.batch? b.id = some b := held
    rw [ne_eq, told_eq_rejected_iff batch heldStill isOpen later, not_not]
    rfl
  have answered : sheet.preview b.id limit now = (.ok (b.previewOf sheet.config now previews),
      { sheet with store := { sheet.store with reads, trace } }) := by
    simp only [preview, found, run]
    rfl
  refine ⟨_, reads, trace, answered, by simp [Batch.previewOf, previews, Batch.previewsOf], ?_, ?_,
    ?_⟩
  · intro store later same outcome accepted clear
    let exchanged : Sheet := { sheet with store }
    have sound : exchanged.Sound := reachable.sound.of_batches_eq rfl
    have valid : exchanged.objections b later = [] := (rejected store later).1 accepted
    obtain ⟨answer, _⟩ := commit_of_unhindered sound held isOpen clear
    rw [valid, show exchanged.store.cells = sheet.store.cells from same] at answer
    exact ⟨_, answer, Batch.previewOf_foretells batch.owned.apart _ _ _ _⟩
  · rw [clean]
    simp [validate, find, held, Except.map]
  · intro validates store
    rw [clean, rejected, objections, if_pos validates]

-- A cell that already holds the value is skipped, and a second operation meets an empty cell.
theorem preview_foretells_two_operations :
    let sheet := ((opened (.ofCells ((∅ : Cells).insert ⟨0, 0⟩ (.text "x"))) {}
      (.overwriteText (.range ⟨0, 0⟩ ⟨0, 2⟩) "x")).call 2 (.add ⟨1⟩ (.clear (.single ⟨1, 0⟩)))).2
    ∃ p t result, sheet.preview ⟨1⟩ (some 1) 3 = (.ok p, t) ∧
      (t.commit ⟨1⟩ 4).1 = .ok result ∧ p.Foretells 1 result ∧
      p.previews.map (·.cellsModified) = [2, 0] ∧ p.isClean = true := by
  intro sheet
  have reachable : sheet.Reachable := .call (opened_reachable _ _ _) 2 _
  have held : sheet.batch? ⟨1⟩ = some _ := rfl
  have readable : sheet.store.Readable := fun _ _ => rfl
  obtain ⟨p, reads, trace, answered, _, commits, _, _⟩ :=
    @preview_foretells sheet _ ⟨1⟩ reachable held rfl readable (some 1) 3
  let t : Sheet := { sheet with store := { sheet.store with reads, trace } }
  have heldStill : t.batch? ⟨1⟩ = some _ := held
  have healthy : t.store.Healthy := rfl
  have clear := (commit_touches heldStill rfl 4).unhindered healthy
  have accepted : told ⟨1⟩ (t.commit ⟨1⟩ 4) ≠ .rejected := by
    rw [show told ⟨1⟩ (t.commit ⟨1⟩ 4) = .committed from rfl]
    simp
  obtain ⟨result, reply, foretells⟩ := commits t.store 4 rfl accepted clear
  obtain rfl : _ = p := Except.ok.inj (congrArg Prod.fst answered)
  exact ⟨_, t, result, answered, reply, foretells, rfl, rfl⟩

end Sheet

end CellLedger
