import CellLedger.Proofs.Batch.Run
import CellLedger.Proofs.Operation.Accesses

/-!
The accesses of a run in which no operation fails (`runFrom_logs`). Since the operations target
disjoint cells, each cell is accessed by the one operation that targets it, and as if it were alone.
-/

set_option autoImplicit false

namespace CellLedger

namespace Operation

theorem accessesTo_flatMap_visits {operations : List Operation} {op : Operation} {a : Address}
    (apart : operations.Pairwise Apart) (listed : op ∈ operations)
    (member : a ∈ op.selection.cells) (cells : Cells) :
    accessesTo a (operations.flatMap (·.visits cells)) = op.visit a (cells.get? a) := by
  induction operations with
  | nil => simp at listed
  | cons first rest ih =>
    obtain ⟨apartHead, apartRest⟩ := List.pairwise_cons.1 apart
    rw [List.flatMap_cons, accessesTo_append, accessesTo_visits]
    rcases List.mem_cons.1 listed with rfl | listed
    · have later : accessesTo a (rest.flatMap (·.visits cells)) = [] := by
        simp only [accessesTo, List.filter_flatMap, List.flatMap_eq_nil_iff]
        intro p listed
        have none := accessesTo_visits p cells a
        rwa [if_neg (apartHead p listed a member)] at none
      rw [if_pos member, later, List.append_nil]
    · have earlier : a ∉ first.selection.cells :=
        fun memberToo => apartHead op listed a memberToo member
      rw [if_neg earlier, List.nil_append, ih apartRest listed]

end Operation

namespace Batch

theorem runFrom_logs (b : Batch) (autoRollback : Bool) (index : Nat) {operations : List Operation}
    (apart : operations.Pairwise Operation.Apart) {s : Store}
    (clean : (b.runFrom autoRollback index operations s).1.errors = []) :
    s.Logs (b.runFrom autoRollback index operations s).2
      (operations.flatMap (·.visits s.cells)) := by
  induction operations generalizing index s with
  | nil => exact .refl s
  | cons op rest ih =>
    obtain ⟨apartHead, apartRest⟩ := List.pairwise_cons.1 apart
    have first := op.execute_touches s
    generalize run : op.execute s = outcome at first
    obtain ⟨reply, t⟩ := outcome
    cases reply with
    | error e =>
      simp only [runFrom, run] at clean
      split at clean
      · simp at clean
      · split at clean <;> simp [Run.precede] at clean
    | ok result =>
      simp only [runFrom, run, Run.precede, List.nil_append] at clean ⊢
      -- The first operation leaves the cells of the others as they were.
      have unread : ∀ p ∈ rest, p.visits t.cells = p.visits s.cells := by
        refine fun p listed => Operation.visits_congr fun a member => first.frame ?_
        exact fun memberToo => apartHead p listed a memberToo member
      rw [List.flatMap_cons, ← List.flatMap_congr unread]
      exact (Operation.execute_logs run).trans (ih (index + 1) apartRest clean)

theorem run_logs {b : Batch} {autoRollback : Bool} {s t : Store} {run : Run}
    (attempt : b.run autoRollback s = (run, t)) (apart : b.operations.Pairwise Operation.Apart)
    (clean : run.errors = []) : s.Logs t (b.operations.flatMap (·.visits s.cells)) := by
  obtain rfl : (b.run autoRollback s).1 = run := by rw [attempt]
  obtain rfl : (b.run autoRollback s).2 = t := by rw [attempt]
  exact b.runFrom_logs autoRollback 0 apart clean

end Batch

end CellLedger
