import CellLedger.Proofs.SortedMap.Lookup
import CellLedger.Selection

/-!
The cells of a selection, told for each way of making one.
-/

set_option autoImplicit false

namespace CellLedger.Selection

variable {s t : Selection} {a b c : Address} {rows cols : List Nat}

theorem cells_nodup (s : Selection) : s.cells.Nodup :=
  s.ascending.imp fun below => KeyOrder.apart_iff.1 (.inl below)

theorem filter_below {before after : List Address} (split : s.cells = before ++ a :: after) :
    s.cells.filter (· < a) = before := by
  have ascending := s.ascending
  rw [split] at ascending ⊢
  obtain ⟨_, later, below⟩ := List.pairwise_append.1 ascending
  have kept : before.filter (· < a) = before :=
    List.filter_eq_self.2 fun c earlier => decide_eq_true (below c earlier a (by simp))
  have dropped : (a :: after).filter (· < a) = [] := by
    refine List.filter_eq_nil_iff.2 fun c member under => ?_
    have lower : c < a := of_decide_eq_true under
    rcases List.mem_cons.1 member with rfl | above
    · exact KeyOrder.irrefl c lower
    · exact KeyOrder.irrefl c (KeyOrder.trans lower ((List.pairwise_cons.1 later).1 c above))
  rw [List.filter_append, kept, dropped, List.append_nil]

theorem mem_before_iff {before after : List Address} (split : s.cells = before ++ a :: after) :
    c ∈ before ↔ c ∈ s.cells ∧ c < a := by
  rw [← filter_below split, List.mem_filter, decide_eq_true_eq]

theorem mem_ofList {cells : List Address} : a ∈ (ofList cells).cells ↔ a ∈ cells := by
  have keys : a ∈ (SortedMap.ofList (cells.map fun b => (b, ()))).keys ↔ a ∈ cells := by
    rw [SortedMap.ofList, SortedMap.mem_keys_insertAll]
    simp
  exact keys

theorem mem_union : a ∈ (s.union t).cells ↔ a ∈ s.cells ∨ a ∈ t.cells := by
  rw [union, mem_ofList, List.mem_append]

theorem mem_rectangle (fitRows : ∀ r ∈ rows, r < UInt32.size)
    (fitCols : ∀ c ∈ cols, c < UInt32.size) :
    a ∈ rectangle rows cols ↔ a.row.toNat ∈ rows ∧ a.col.toNat ∈ cols := by
  simp only [rectangle, List.mem_flatMap, List.mem_map]
  constructor
  · rintro ⟨r, listed, c, listedToo, rfl⟩
    rw [UInt32.toNat_ofNat_of_lt' (fitRows r listed),
      UInt32.toNat_ofNat_of_lt' (fitCols c listedToo)]
    exact ⟨listed, listedToo⟩
  · rintro ⟨listed, listedToo⟩
    exact ⟨_, listed, _, listedToo, by simp⟩

theorem length_rectangle (rows cols : List Nat) :
    (rectangle rows cols).length = rows.length * cols.length := by
  simp [rectangle, List.length_flatMap]

theorem mem_range :
    c ∈ (range a b).cells ↔
      (min a.row.toNat b.row.toNat ≤ c.row.toNat ∧ c.row.toNat ≤ max a.row.toNat b.row.toNat) ∧
        min a.col.toNat b.col.toNat ≤ c.col.toNat ∧ c.col.toNat ≤ max a.col.toNat b.col.toNat := by
  have fits (m n : UInt32) : ∀ i ∈ span (min m.toNat n.toNat) (max m.toNat n.toNat),
      i < UInt32.size := by
    intro i listed
    have := (mem_span.1 listed).2
    have := m.toNat_lt
    have := n.toNat_lt
    simp only [UInt32.size]
    omega
  rw [range, mem_rectangle (fits _ _) (fits _ _), mem_span, mem_span]

theorem count_range (a b : Address) :
    (range a b).count =
      (max a.row.toNat b.row.toNat - min a.row.toNat b.row.toNat + 1) *
        (max a.col.toNat b.col.toNat - min a.col.toNat b.col.toNat + 1) := by
  have side (m n : Nat) : (span (min m n) (max m n)).length = max m n - min m n + 1 := by
    rw [span, List.length_range']
    omega
  rw [count, range, length_rectangle, side, side]

end CellLedger.Selection
