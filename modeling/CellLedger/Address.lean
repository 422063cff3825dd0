import CellLedger.SortedMap

/-!
Cell addresses: a row and a column, both counted from zero. They are ordered row by row, which is
the order of their positions in a walk through the grid (`Address.lt_iff_rank_lt`).
-/

set_option autoImplicit false

namespace CellLedger

structure Address where
  row : UInt32
  col : UInt32
  deriving DecidableEq, Repr, Inhabited

namespace Address

/-- Rows are compared first and then columns. -/
instance : LT Address := ⟨fun a b => a.row < b.row ∨ (a.row = b.row ∧ a.col < b.col)⟩

theorem lt_iff {a b : Address} :
    a < b ↔ a.row < b.row ∨ (a.row = b.row ∧ a.col < b.col) := Iff.rfl

/-- The position in a walk through the grid row by row, each from left to right. -/
def rank (a : Address) : Nat := a.row.toNat * UInt32.size + a.col.toNat

theorem rank_inj {a b : Address} (h : a.rank = b.rank) : a = b := by
  have colA := a.col.toNat_lt
  have colB := b.col.toNat_lt
  have rows : a.row = b.row := UInt32.toNat_inj.1 (by simp only [rank, UInt32.size] at h; omega)
  have cols : a.col = b.col := UInt32.toNat_inj.1 (by simp only [rank, UInt32.size] at h; omega)
  cases a
  cases b
  cases rows
  cases cols
  rfl

theorem lt_iff_rank_lt {a b : Address} : a < b ↔ a.rank < b.rank := by
  have colA := a.col.toNat_lt
  have colB := b.col.toNat_lt
  rw [lt_iff, UInt32.lt_iff_toNat_lt, UInt32.lt_iff_toNat_lt, ← UInt32.toNat_inj]
  simp only [rank, UInt32.size]
  omega

instance : KeyOrder Address where
  decidable_lt a b :=
    inferInstanceAs (Decidable (a.row < b.row ∨ (a.row = b.row ∧ a.col < b.col)))
  irrefl a h := Nat.lt_irrefl a.rank (lt_iff_rank_lt.1 h)
  trans h k := lt_iff_rank_lt.2 (Nat.lt_trans (lt_iff_rank_lt.1 h) (lt_iff_rank_lt.1 k))
  total a b := by
    rcases Nat.lt_trichotomy a.rank b.rank with h | h | h
    · exact .inl (lt_iff_rank_lt.2 h)
    · exact .inr (.inl (rank_inj h))
    · exact .inr (.inr (lt_iff_rank_lt.2 h))

def inOrder (cells : List Address) : List Address :=
  cells.mergeSort fun a b => !decide (b < a)

end Address

end CellLedger
