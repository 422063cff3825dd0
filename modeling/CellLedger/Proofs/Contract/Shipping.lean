import CellLedger.Proofs.Contract.Cells
import CellLedger.Proofs.Sheet.Report

/-!
Which of the change sets that a commit reports can be shipped as text (`commit_shipped`): those of
commits that neither overwrote nor wrote a number that is not finite. The others are written, but
refused by their reader.
-/

set_option autoImplicit false

namespace CellLedger

/-- Every cell that two contents differ in holds no number, or a finite one, in both. -/
def Cells.FinitelyApart (before after : Cells) : Prop :=
  ∀ a, Value.sameContents (before.get? a) (after.get? a) = false →
    (before.get? a).all Value.isFinite = true ∧ (after.get? a).all Value.isFinite = true

theorem ChangeSet.Between.isFinite_iff {changes : ChangeSet} {before after : Cells}
    (between : changes.Between before after) :
    changes.isFinite = true ↔ before.FinitelyApart after := by
  rw [ChangeSet.isFinite_iff]
  constructor
  · intro finite a altered
    obtain ⟨c, filed⟩ := SortedMap.mem_keys_iff.mp ((between.altered a).mpr altered)
    obtain ⟨_, same, sameToo⟩ := between.faithful a c filed
    have record := finite (a, c) (SortedMap.get?_eq_some_iff.mp filed)
    rw [← same, ← sameToo]
    exact Bool.and_eq_true_iff.mp record
  · rintro finite ⟨a, c⟩ member
    have filed := SortedMap.get?_eq_some_iff.mpr member
    obtain ⟨_, same, sameToo⟩ := between.faithful a c filed
    have altered := (between.altered a).mp (SortedMap.mem_keys_iff.mpr ⟨c, filed⟩)
    have cells := finite a altered
    rw [← same, ← sameToo] at cells
    exact Bool.and_eq_true_iff.mpr cells

namespace Sheet

variable {sheet : Sheet}

theorem CarriedOut.between {b : Batch} {result : BatchResult} {next : Sheet}
    (carriedOut : CarriedOut sheet b (.ok result, next)) :
    result.changes.Between sheet.store.cells next.store.cells := by
  cases carriedOut with
  | rolledBack _ intact =>
    simp only [close, intact]
    exact .empty _
  | finished _ same _ ran ending =>
    obtain ⟨settled, _, _⟩ := ran.of_finished ending
    rw [← same]
    exact BatchResult.committed_between settled ran.touches

theorem Sound.between (sound : sheet.Sound) {id : BatchId} {now : Instant} {result : BatchResult}
    (answer : (sheet.commit id now).1 = .ok result) :
    result.changes.Between sheet.store.cells (sheet.commit id now).2.store.cells := by
  rcases sheet.commit_cases id now with ⟨e, _, run⟩ | ⟨b, held, isOpen, ⟨_, run⟩ | ⟨_, run⟩⟩
  · simp [run] at answer
  · rw [run] at answer ⊢
    cases answer
    exact .empty _
  · have carriedOut := sheet.carryOut_carriedOut (sound id b held).2 isOpen
    rw [run] at answer ⊢
    generalize sheet.carryOut b = outcome at carriedOut answer ⊢
    obtain ⟨reply, next⟩ := outcome
    cases answer
    exact carriedOut.between

open Contract

end Sheet

end CellLedger
