import CellLedger.Proofs.Change.Alike
import CellLedger.Proofs.Operation.Inverse

/-!
Going back and forth by records. Running an operation again and replaying its records agree on
contents equal to those it was recorded on (`rerun_agrees`). Undoing what was recorded last leads
back and forth between two contents, however often it is repeated (`undoTimes_alternates`).
-/

set_option autoImplicit false

namespace CellLedger.Operation

variable {op : Operation} {s : Store} {n : Nat}

theorem rerun_agrees (op : Operation) (s other : Store) (same : s.cells.Same other.cells) :
    let first := op.execute s
    s.Unhindered first.2 → ∃ result, first.1 = .ok result ∧
      let rerun := op.execute other
      let derived := (deriveRedo result.changes).execute other
      other.Unhindered rerun.2 → other.Unhindered derived.2 →
        ∃ again redone, rerun.1 = .ok again ∧ derived.1 = .ok redone ∧
          again.changes.keys = result.changes.keys ∧
          redone.changes.keys = result.changes.keys ∧
          again.changes.Alike redone.changes ∧
          rerun.2.cells.Same derived.2.cells := by
  intro first clear
  obtain ⟨t, run, _⟩ := execute_of_unhindered clear
  refine ⟨op.report s.cells, congrArg Prod.fst run, ?_⟩
  intro rerun derived clearRerun clearDerived
  obtain ⟨u, runAgain, cellsAgain⟩ := execute_of_unhindered clearRerun
  obtain ⟨v, runDerived, cellsDerived⟩ := execute_of_unhindered clearDerived
  -- Both lead to what the first run led to.
  have again : (op.apply s.cells).Same (op.apply other.cells) := op.apply_congr same
  have redone : ((deriveRedo (op.changesOn s.cells)).apply other.cells).Same (op.apply s.cells) :=
    apply_deriveRedo (op.changesOn_between s.cells) same.symm
  have alike := changesOn_alike same again
  have alikeToo := changesOn_alike (Cells.Same.refl other.cells) (redone.trans again)
  refine ⟨_, _, congrArg Prod.fst runAgain, congrArg Prod.fst runDerived, alike.keys.symm,
    alikeToo.keys.trans alike.keys.symm, ?_, ?_⟩
  · exact changesOn_alike (Cells.Same.refl other.cells) (again.symm.trans redone.symm)
  · have after : rerun.2.cells = _ := (congrArg (·.2.cells) runAgain).trans cellsAgain
    have afterToo : derived.2.cells = _ := (congrArg (·.2.cells) runDerived).trans cellsDerived
    rw [after, afterToo]
    exact again.symm.trans redone.symm

-- The last cell holds one zero in the first store and the other in the second. Both runs pass it
-- over, since the number to be written is a zero too.
theorem rerun_agrees_zeros :
    let zero (negative : Bool) : Value := .number (.ofMagnitude negative 0)
    let op : Operation := .setValue ⟨.range ⟨0, 0⟩ ⟨0, 2⟩, ⟨zero false, true⟩, rfl⟩
    let cells (negative : Bool) : Cells :=
      .ofList [(⟨0, 1⟩, .text "x"), (⟨0, 2⟩, zero negative)]
    let s := Store.ofCells (cells false)
    let other := Store.ofCells (cells true)
    s.cells.Same other.cells ∧ s.cells ≠ other.cells ∧ s.Unhindered (op.execute s).2 ∧
      ∃ result again redone, (op.execute s).1 = .ok result ∧ (op.execute other).1 = .ok again ∧
        ((deriveRedo result.changes).execute other).1 = .ok redone ∧
        again.changes.keys = [⟨0, 0⟩, ⟨0, 1⟩] ∧ redone.changes.keys = [⟨0, 0⟩, ⟨0, 1⟩] ∧
        again.changes.Alike redone.changes := by
  intro zero op cells s other
  have clear (p : Operation) (t : Store) (plan : t.Healthy) : t.Unhindered (p.execute t).2 :=
    (p.execute_touches t).unhindered plan
  have same : s.cells.Same other.cells := by
    intro a
    simp only [s, other, cells, Store.ofCells, SortedMap.ofList, SortedMap.insertAll,
      List.foldl_cons, List.foldl_nil, SortedMap.get?_insert]
    split
    · decide
    · exact Value.sameContents_refl _
  obtain ⟨result, run, agrees⟩ := rerun_agrees op s other same (clear op s rfl)
  obtain ⟨again, redone, runAgain, runDerived, keys, keysToo, alike, _⟩ :=
    agrees (clear _ _ rfl) (clear _ _ rfl)
  have recorded : (op.execute s).1.toOption.map (·.changes.keys) = some [⟨0, 0⟩, ⟨0, 1⟩] := by
    decide +kernel
  rw [run] at recorded
  have listed : result.changes.keys = [⟨0, 0⟩, ⟨0, 1⟩] := Option.some.inj recorded
  exact ⟨same, by decide +kernel, clear op s rfl, result, again, redone, run, runAgain, runDerived,
    keys.trans listed, keysToo.trans listed, alike⟩

/-- The operation, and then as many times the undo of what was recorded last. -/
def undoTimes (op : Operation) (s : Store) : Nat → Except StoreError OperationResult × Store
  | 0 => op.execute s
  | n + 1 =>
    match op.undoTimes s n with
    | (.error e, t) => (.error e, t)
    | (.ok result, t) => (deriveUndo result.changes).execute t

theorem undoTimes_succ_touches (op : Operation) (s : Store) (n : Nat) :
    (op.undoTimes s n).2.Touches (op.undoTimes s (n + 1)).2 fun _ => True := by
  rw [undoTimes]
  rcases op.undoTimes s n with ⟨_ | result, t⟩
  · exact .refl t _
  · exact ((deriveUndo result.changes).execute_touches t).mono fun _ _ => trivial

theorem undoTimes_touches (op : Operation) (s : Store) (n : Nat) :
    s.Touches (op.undoTimes s n).2 fun _ => True := by
  induction n with
  | zero => exact (op.execute_touches s).mono fun _ _ => trivial
  | succ n ih => exact ih.trans (op.undoTimes_succ_touches s n)

theorem execute_unhindered_of_undoTimes (clear : s.Unhindered (op.undoTimes s n).2) :
    s.Unhindered (op.execute s).2 := by
  induction n with
  | zero => exact clear
  | succ n ih =>
    exact ih (clear.split (op.undoTimes_touches s n) (op.undoTimes_succ_touches s n)).1

-- The records always tell of the way between the two contents, and its direction changes each time.
theorem undoTimes_between (clear : s.Unhindered (op.undoTimes s n).2) :
    ∃ result t, op.undoTimes s n = (.ok result, t) ∧
      ∃ start, result.changes.Between start t.cells ∧
        if n % 2 = 0 then start.Same s.cells ∧ t.cells.Same (op.apply s.cells)
        else start.Same (op.apply s.cells) ∧ t.cells.Same s.cells := by
  induction n with
  | zero =>
    obtain ⟨t, run, cells⟩ := execute_of_unhindered clear
    refine ⟨_, t, run, s.cells, cells ▸ op.changesOn_between s.cells, ?_⟩
    rw [if_pos rfl, cells]
    exact ⟨.refl _, .refl _⟩
  | succ n ih =>
    obtain ⟨before, after⟩ :=
      clear.split (op.undoTimes_touches s n) (op.undoTimes_succ_touches s n)
    obtain ⟨result, t, run, start, between, ways⟩ := ih before
    have next : op.undoTimes s (n + 1) = (deriveUndo result.changes).execute t := by
      rw [undoTimes, run]
    rw [next, run] at after
    obtain ⟨u, runUndo, cells⟩ := execute_of_unhindered after
    have back : u.cells.Same start := cells ▸ apply_deriveUndo between (.refl t.cells)
    refine ⟨_, u, next.trans runUndo, t.cells, cells ▸ changesOn_between _ t.cells, ?_⟩
    rcases Nat.mod_two_eq_zero_or_one n with even | odd
    · rw [if_pos even] at ways
      rw [if_neg (by omega)]
      exact ⟨ways.2, back.trans ways.1⟩
    · rw [if_neg (by omega)] at ways
      rw [if_pos (by omega)]
      exact ⟨ways.2, back.trans ways.1⟩

theorem undoTimes_alternates (op : Operation) (s : Store) (n : Nat)
    (clear : s.Unhindered (op.undoTimes s n).2) :
    ∃ first last, (op.execute s).1 = .ok first ∧ (op.undoTimes s n).1 = .ok last ∧
      last.changes.keys = first.changes.keys ∧
      if n % 2 = 0 then
        last.changes.Alike first.changes ∧
          (op.undoTimes s n).2.cells.Same (op.execute s).2.cells
      else
        last.changes.Alike first.changes.inverted ∧
          (op.undoTimes s n).2.cells.Same s.cells := by
  obtain ⟨t, run, cells⟩ := execute_of_unhindered (execute_unhindered_of_undoTimes clear)
  obtain ⟨last, u, runLast, start, between, ways⟩ := undoTimes_between clear
  have recorded := op.changesOn_between s.cells
  rw [run, runLast]
  refine ⟨op.report s.cells, last, rfl, rfl, ?_⟩
  rcases Nat.mod_two_eq_zero_or_one n with even | odd
  · rw [if_pos even] at ways ⊢
    have alike : last.changes.Alike (op.changesOn s.cells) :=
      between.alike recorded ways.1 ways.2
    exact ⟨alike.keys, alike, cells.symm ▸ ways.2⟩
  · rw [if_neg (by omega)] at ways ⊢
    have alike : last.changes.Alike (op.changesOn s.cells).inverted :=
      between.alike recorded.inverted ways.1 ways.2
    exact ⟨alike.keys.trans (SortedMap.keys_mapValues _ _), alike, ways.2⟩

-- The two zeros that are written over come back as one, so that the contents after the second undo
-- are those after the operation, and those after the third equal to those before it.
theorem undoTimes_alternates_zeros :
    let zero (negative : Bool) : Value := .number (.ofMagnitude negative 0)
    let op : Operation := .overwriteText (.range ⟨0, 0⟩ ⟨0, 1⟩) "x"
    let s := Store.ofCells (.ofList [(⟨0, 0⟩, zero false), (⟨0, 1⟩, zero true)])
    s.Unhindered (op.undoTimes s 3).2 ∧ (op.undoTimes s 3).2.cells ≠ s.cells ∧
      ∃ first last, (op.execute s).1 = .ok first ∧ (op.undoTimes s 3).1 = .ok last ∧
        last.changes.keys = first.changes.keys ∧ last.changes.Alike first.changes.inverted ∧
        (op.undoTimes s 3).2.cells.Same s.cells := by
  intro zero op s
  have clear : s.Unhindered (op.undoTimes s 3).2 := (op.undoTimes_touches s 3).unhindered rfl
  exact ⟨clear, by decide +kernel, undoTimes_alternates op s 3 clear⟩

end CellLedger.Operation
