import CellLedger.Address

/-!
Selections: finite sets of cells, listed row by row. Membership is `a ∈ s.cells`.
-/

set_option autoImplicit false

namespace CellLedger

structure Selection where
  cells : List Address
  ascending : cells.Pairwise (· < ·)

namespace Selection

instance : DecidableEq Selection := fun a b =>
  if h : a.cells = b.cells then
    .isTrue (by cases a; cases b; cases h; rfl)
  else
    .isFalse fun same => h (congrArg cells same)

def empty : Selection := ⟨[], List.Pairwise.nil⟩

instance : EmptyCollection Selection := ⟨empty⟩

instance : Inhabited Selection := ⟨empty⟩

def single (a : Address) : Selection := ⟨[a], List.pairwise_singleton _ _⟩

def ofKeys {V : Type} (m : SortedMap Address V) : Selection := ⟨m.keys, m.keys_ascending⟩

/-- The listed cells, in any order and with repetitions. -/
def ofList (cells : List Address) : Selection :=
  ofKeys (SortedMap.ofList (cells.map fun a => (a, ())))

def union (s t : Selection) : Selection := ofList (s.cells ++ t.cells)

def contains (s : Selection) (a : Address) : Bool := decide (a ∈ s.cells)

def count (s : Selection) : Nat := s.cells.length

def isEmpty (s : Selection) : Bool := s.cells.isEmpty

def span (low high : Nat) : List Nat := List.range' low (high + 1 - low)

/-- The rectangle with these corners, row by row; `rows` and `cols` ascend and fit an index. -/
def rectangle (rows cols : List Nat) : List Address :=
  rows.flatMap fun r => cols.map fun c => ⟨UInt32.ofNat r, UInt32.ofNat c⟩

theorem rectangle_ascending {rows cols : List Nat} (hr : rows.Pairwise (· < ·))
    (hc : cols.Pairwise (· < ·)) (fitR : ∀ r ∈ rows, r < UInt32.size)
    (fitC : ∀ c ∈ cols, c < UInt32.size) :
    (rectangle rows cols).Pairwise (· < ·) := by
  rw [rectangle, List.pairwise_flatMap]
  constructor
  · intro r _
    refine List.pairwise_map.2 (hc.imp_of_mem fun {c d} hcm hdm lt => ?_)
    refine Address.lt_iff.2 (.inr ⟨rfl, ?_⟩)
    rw [UInt32.lt_iff_toNat_lt, UInt32.toNat_ofNat_of_lt' (fitC c hcm),
      UInt32.toNat_ofNat_of_lt' (fitC d hdm)]
    exact lt
  · refine hr.imp_of_mem fun {r q} hrm hqm lt a ha b hb => ?_
    obtain ⟨c, _, rfl⟩ := List.mem_map.1 ha
    obtain ⟨d, _, rfl⟩ := List.mem_map.1 hb
    refine Address.lt_iff.2 (.inl ?_)
    rw [UInt32.lt_iff_toNat_lt, UInt32.toNat_ofNat_of_lt' (fitR r hrm),
      UInt32.toNat_ofNat_of_lt' (fitR q hqm)]
    exact lt

theorem span_ascending (low high : Nat) : (span low high).Pairwise (· < ·) :=
  List.pairwise_lt_range' ..

theorem mem_span {low high n : Nat} : n ∈ span low high ↔ low ≤ n ∧ n ≤ high := by
  simp only [span, List.mem_range'_1]
  omega

/-- The rectangle between two opposite corners, both included, given in any order. -/
def range (a b : Address) : Selection where
  cells := rectangle (span (min a.row.toNat b.row.toNat) (max a.row.toNat b.row.toNat))
    (span (min a.col.toNat b.col.toNat) (max a.col.toNat b.col.toNat))
  ascending := by
    refine rectangle_ascending (span_ascending _ _) (span_ascending _ _) ?_ ?_ <;>
      intro n h <;> have := mem_span.1 h <;> have := a.row.toNat_lt <;> have := b.row.toNat_lt <;>
      have := a.col.toNat_lt <;> have := b.col.toNat_lt <;> simp only [UInt32.size] <;> omega

end Selection

end CellLedger
