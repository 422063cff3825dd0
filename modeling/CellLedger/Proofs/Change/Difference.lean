import CellLedger.Proofs.Operation.Execute

/-!
Differences between contents, up to equality of values. `ChangeSet.Between` says that records are
exactly the difference; an execution without faults makes such records (`changesOn_between`).
-/

set_option autoImplicit false

namespace CellLedger

theorem Value.sameContents_comm (a b : Option Value) : sameContents a b = sameContents b a :=
  Bool.eq_iff_iff.2 ⟨sameContents_symm, sameContents_symm⟩

theorem Value.sameContents_congr {a b c d : Option Value} (left : sameContents a c = true)
    (right : sameContents b d = true) : sameContents a b = sameContents c d := by
  refine Bool.eq_iff_iff.2 ⟨fun same => ?_, fun same => ?_⟩
  · exact sameContents_trans (sameContents_symm left) (sameContents_trans same right)
  · exact sameContents_trans left (sameContents_trans same (sameContents_symm right))

namespace Cells

def Same (s t : Cells) : Prop := ∀ a, Value.sameContents (s.get? a) (t.get? a) = true

theorem Same.refl (s : Cells) : s.Same s := fun _ => Value.sameContents_refl _

theorem Same.symm {s t : Cells} (same : s.Same t) : t.Same s :=
  fun a => Value.sameContents_symm (same a)

theorem Same.trans {s t u : Cells} (first : s.Same t) (second : t.Same u) : s.Same u :=
  fun a => Value.sameContents_trans (first a) (second a)

def differing (s t : Cells) : List Address :=
  (Selection.ofList (s.keys ++ t.keys)).cells.filter fun a =>
    !Value.sameContents (s.get? a) (t.get? a)

def distance (s t : Cells) : Nat := (s.differing t).length

theorem mem_differing {s t : Cells} {a : Address} :
    a ∈ s.differing t ↔ Value.sameContents (s.get? a) (t.get? a) = false := by
  rw [differing, List.mem_filter, Selection.mem_ofList, List.mem_append, SortedMap.mem_keys_iff,
    SortedMap.mem_keys_iff]
  cases held : s.get? a <;> cases heldThere : t.get? a <;> simp [Value.sameContents]

theorem differing_nodup (s t : Cells) : (s.differing t).Nodup :=
  (Selection.cells_nodup _).filter _

theorem distance_eq_length {s t : Cells} {cells : List Address} (distinct : cells.Nodup)
    (listed : ∀ a, a ∈ cells ↔ Value.sameContents (s.get? a) (t.get? a) = false) :
    s.distance t = cells.length := by
  -- Two lists of the same cells without repetitions are equally long.
  apply List.Perm.length_eq
  rw [List.perm_ext_iff_of_nodup (differing_nodup s t) distinct]
  intro a
  rw [mem_differing, listed]

theorem distance_comm (s t : Cells) : s.distance t = t.distance s := by
  refine distance_eq_length (differing_nodup t s) fun a => ?_
  rw [mem_differing, Value.sameContents_comm]

theorem distance_congr {s t u v : Cells} (left : s.Same u) (right : t.Same v) :
    s.distance t = u.distance v := by
  refine distance_eq_length (differing_nodup u v) fun a => ?_
  rw [mem_differing, Value.sameContents_congr (left a) (right a)]

end Cells

theorem ChangeSet.keys_eq {changes others : ChangeSet}
    (same : ∀ a, a ∈ changes.keys ↔ a ∈ others.keys) : changes.keys = others.keys := by
  have perm : changes.keys.Perm others.keys :=
    (List.perm_ext_iff_of_nodup changes.keys_nodup others.keys_nodup).2 same
  -- Both lists ascend, so that they list the same cells in the same order.
  refine perm.eq_of_pairwise ?_ changes.keys_ascending others.keys_ascending
  intro a b _ _ below above
  exact absurd (KeyOrder.trans below above) (KeyOrder.irrefl a)

-- A cell without a record holds the very same value, not just an equal one.
def Change.Tells (a : Address) (before after : Option Value) : Option Change → Prop
  | some c =>
    c.address = a ∧ c.before = before ∧ c.after = after ∧ Value.sameContents before after = false
  | none => after = before

/-- The records are exactly what differs between two contents: of the cells that do not hold equal
values each has its own record, and the others hold the very same value. -/
structure ChangeSet.Between (changes : ChangeSet) (before after : Cells) : Prop where
  altered : ∀ a, a ∈ changes.keys ↔ Value.sameContents (before.get? a) (after.get? a) = false
  faithful : ∀ a c, changes.get? a = some c →
    c.address = a ∧ c.before = before.get? a ∧ c.after = after.get? a
  unaltered : ∀ a, a ∉ changes.keys → after.get? a = before.get? a

namespace ChangeSet

variable {changes : ChangeSet} {before after : Cells}

theorem Between.of_tells
    (tells : ∀ a, Change.Tells a (before.get? a) (after.get? a) (changes.get? a)) :
    changes.Between before after where
  altered a := by
    have cell := tells a
    rw [SortedMap.mem_keys_iff]
    cases found : changes.get? a with
    | none =>
      rw [found] at cell
      simp [show after.get? a = before.get? a from cell]
    | some c =>
      rw [found] at cell
      simp [cell.2.2.2]
  faithful a c found := by
    have cell := tells a
    rw [found] at cell
    exact ⟨cell.1, cell.2.1, cell.2.2.1⟩
  unaltered a absent := by
    have cell := tells a
    rw [SortedMap.get?_eq_none_iff.2 absent] at cell
    exact cell

theorem Between.size_eq_distance (between : changes.Between before after) :
    changes.size = before.distance after := by
  rw [changes.size_eq_length_keys]
  exact (Cells.distance_eq_length changes.keys_nodup between.altered).symm

theorem Between.eq_of_isEmpty (between : changes.Between before after)
    (none : changes.isEmpty = true) : after = before := by
  refine SortedMap.ext_get? fun a => between.unaltered a ?_
  rw [SortedMap.isEmpty_iff.1 none]
  simp

theorem Between.empty (cells : Cells) : ChangeSet.Between ∅ cells cells :=
  .of_tells fun _ => rfl

end ChangeSet

namespace Operation

variable {op : Operation} {a : Address} {current : Option Value}

theorem goal?_eq_some {wanted : Option Value} (goal : op.goal? a current = some wanted) :
    op.plan a current = some wanted ∧ Value.sameContents current wanted = false := by
  rw [goal?, Option.filter_eq_some_iff] at goal
  rw [Value.sameContents_comm]
  simpa using goal

theorem prospect?_tells (op : Operation) (a : Address) (current : Option Value) :
    Change.Tells a current (op.target a current) (op.prospect? a current) := by
  cases goal : op.goal? a current with
  | none => simp [prospect?, target, goal, Change.Tells]
  | some wanted =>
    simp only [prospect?, target, goal, Option.map_some, Option.getD_some]
    exact ⟨rfl, rfl, rfl, (goal?_eq_some goal).2⟩

theorem changesOn_tells (op : Operation) (cells : Cells) (a : Address) :
    Change.Tells a (cells.get? a) (op.outcome a (cells.get? a)) ((op.changesOn cells).get? a) := by
  rw [get?_changesOn]
  by_cases member : a ∈ op.selection.cells
  · rw [if_pos member, outcome_of_mem member]
    exact op.prospect?_tells a _
  · rw [if_neg member, outcome_of_not_mem member]
    rfl

theorem changesOn_between (op : Operation) (cells : Cells) :
    (op.changesOn cells).Between cells (op.apply cells) := by
  refine .of_tells fun a => ?_
  rw [get?_apply]
  exact op.changesOn_tells cells a

theorem mem_selection_of_mem_changesOn {cells : Cells} (recorded : a ∈ (op.changesOn cells).keys) :
    a ∈ op.selection.cells := by
  obtain ⟨c, found⟩ := SortedMap.mem_keys_iff.1 recorded
  rw [get?_changesOn] at found
  by_cases member : a ∈ op.selection.cells
  · exact member
  · simp [member] at found

end Operation

end CellLedger
