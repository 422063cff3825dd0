import CellLedger.Proofs.Selection.Cells
import Mathlib.Data.Set.Card

/-!
Selections as sets. However a selection is put together, it lists the cells of the set that it
stands for, row by row and each once, and counts them (`Expr.eval_exact`).
-/

set_option autoImplicit false

namespace CellLedger.Selection

/-- The ways to make a selection, in any nesting. -/
inductive Expr where
  | empty
  | single (a : Address)
  | range (a b : Address)
  | listed (cells : List Address)
  | union (s t : Expr)

namespace Expr

def eval : Expr → Selection
  | .empty => .empty
  | .single a => .single a
  | .range a b => .range a b
  | .listed cells => .ofList cells
  | .union s t => s.eval.union t.eval

/-- The rectangle with these opposite corners, both included. -/
def between (a b : Address) : Set Address :=
  {c | (min a.row.toNat b.row.toNat ≤ c.row.toNat ∧ c.row.toNat ≤ max a.row.toNat b.row.toNat) ∧
    min a.col.toNat b.col.toNat ≤ c.col.toNat ∧ c.col.toNat ≤ max a.col.toNat b.col.toNat}

/-- The set of cells that the expression stands for. -/
def cells : Expr → Set Address
  | .empty => ∅
  | .single a => {a}
  | .range a b => between a b
  | .listed cells => {c | c ∈ cells}
  | .union s t => s.cells ∪ t.cells

theorem mem_eval (e : Expr) (a : Address) : a ∈ e.eval.cells ↔ a ∈ e.cells := by
  induction e with
  | empty => simp [eval, cells, Selection.empty]
  | single b => simp [eval, cells, Selection.single]
  | range b c => exact mem_range
  | listed cells => exact mem_ofList
  | union s t left right =>
    rw [eval, mem_union, left, right]
    rfl

theorem coe_toFinset_eval (e : Expr) : (e.eval.cells.toFinset : Set Address) = e.cells := by
  ext a
  simp [mem_eval]

theorem count_eval (e : Expr) : e.eval.count = e.cells.ncard := by
  rw [← coe_toFinset_eval, Set.ncard_coe_finset, List.toFinset_card_of_nodup e.eval.cells_nodup]
  rfl

theorem finite_cells (e : Expr) : e.cells.Finite := by
  rw [← coe_toFinset_eval]
  exact Finset.finite_toSet _

-- The cells of both operands are counted in each, but listed once.
theorem count_union (s t : Expr) :
    (s.union t).eval.count + (s.cells ∩ t.cells).ncard = s.eval.count + t.eval.count := by
  rw [count_eval, count_eval, count_eval]
  exact Set.ncard_union_add_ncard_inter _ _ s.finite_cells t.finite_cells

theorem eval_exact :
    (∀ e : Expr, (∀ a, e.eval.contains a = true ↔ a ∈ e.cells) ∧
      e.eval.cells.Pairwise (· < ·) ∧ (∀ a, a ∈ e.eval.cells ↔ a ∈ e.cells) ∧
      e.eval.count = e.eval.cells.length ∧ e.eval.count = e.cells.ncard) ∧
    (∀ a b : Address, (Expr.range a b).eval.count =
      (max a.row.toNat b.row.toNat - min a.row.toNat b.row.toNat + 1) *
        (max a.col.toNat b.col.toNat - min a.col.toNat b.col.toNat + 1)) ∧
    ∀ s t : Expr,
      (s.union t).eval.count + (s.cells ∩ t.cells).ncard = s.eval.count + t.eval.count := by
  refine ⟨fun e => ⟨fun a => ?_, e.eval.ascending, e.mem_eval, rfl, e.count_eval⟩, count_range,
    count_union⟩
  rw [contains, decide_eq_true_eq, mem_eval]

end Expr

end CellLedger.Selection
