import CellLedger.Proofs.Change.Difference

/-!
Records that are equal up to equality of values. Records of the difference between two contents are
alike for equal contents (`Between.alike`), and inverted they are records of the way back
(`Between.inverted`).
-/

set_option autoImplicit false

namespace CellLedger

namespace ChangeSet

/-- The same cells are recorded, each with equal values before and after. -/
structure Alike (changes others : ChangeSet) : Prop where
  keys : changes.keys = others.keys
  recorded : ∀ a c d, changes.get? a = some c → others.get? a = some d →
    c.address = d.address ∧ Value.sameContents c.before d.before = true ∧
      Value.sameContents c.after d.after = true

def inverted (changes : ChangeSet) : ChangeSet := changes.mapValues Change.inverted

variable {changes others : ChangeSet} {before after start finish : Cells}

theorem Between.alike (between : changes.Between before after)
    (betweenToo : others.Between start finish) (same : before.Same start)
    (sameAfter : after.Same finish) : changes.Alike others where
  keys := by
    refine keys_eq fun a => ?_
    rw [between.altered, betweenToo.altered, Value.sameContents_congr (same a) (sameAfter a)]
  recorded a c d found foundToo := by
    obtain ⟨address, first, last⟩ := between.faithful a c found
    obtain ⟨addressToo, firstToo, lastToo⟩ := betweenToo.faithful a d foundToo
    rw [first, last, firstToo, lastToo]
    exact ⟨address.trans addressToo.symm, same a, sameAfter a⟩

theorem Between.inverted (between : changes.Between before after) :
    changes.inverted.Between after before where
  altered a := by
    rw [ChangeSet.inverted, SortedMap.keys_mapValues, between.altered, Value.sameContents_comm]
  faithful a c found := by
    rw [ChangeSet.inverted, SortedMap.get?_mapValues, Option.map_eq_some_iff] at found
    obtain ⟨d, original, rfl⟩ := found
    obtain ⟨address, first, last⟩ := between.faithful a d original
    exact ⟨address, last, first⟩
  unaltered a absent := by
    rw [ChangeSet.inverted, SortedMap.keys_mapValues] at absent
    exact (between.unaltered a absent).symm

end ChangeSet

-- What operations record on equal contents is alike if they leave equal contents.
theorem Operation.changesOn_alike {op p : Operation} {start other : Cells} (same : start.Same other)
    (sameAfter : (op.apply start).Same (p.apply other)) :
    (op.changesOn start).Alike (p.changesOn other) :=
  (op.changesOn_between start).alike (p.changesOn_between other) same sameAfter

end CellLedger
