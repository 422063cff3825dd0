import CellLedger.Proofs.Batch.Ownership
import Mathlib.Data.List.Forall2

/-!
What one operation of a batch comes to: it takes its whole effect, or none.
-/

set_option autoImplicit false

namespace CellLedger

/-- An operation took the effect it has on the contents before, or none. -/
inductive Settled (before after : Cells) (op : Operation) : OperationResult → Prop
  | kept (effect : ∀ a ∈ op.selection.cells, after.get? a = op.outcome a (before.get? a)) :
      Settled before after op (op.report before)
  | reverted (cause : String) (intact : ∀ a ∈ op.selection.cells, after.get? a = before.get? a) :
      Settled before after op (.failed op.kind [cause])

theorem Settled.congr {before middle after last : Cells} {op : Operation}
    {result : OperationResult} (settled : Settled middle last op result)
    (start : ∀ a ∈ op.selection.cells, middle.get? a = before.get? a)
    (finish : ∀ a ∈ op.selection.cells, after.get? a = last.get? a) :
    Settled before after op result := by
  cases settled with
  | kept effect =>
    rw [Operation.report_congr start]
    exact .kept fun a member => by rw [finish a member, effect a member, start a member]
  | reverted cause intact =>
    exact .reverted cause fun a member => by rw [finish a member, intact a member, start a member]

theorem Settled.effect {before after : Cells} {op : Operation} {result : OperationResult}
    (settled : Settled before after op result) (success : result.success = true) :
    ∀ a ∈ op.selection.cells, after.get? a = op.outcome a (before.get? a) := by
  cases settled with
  | kept effect => exact effect
  | reverted => simp [OperationResult.failed] at success

theorem Settled.intact {before after : Cells} {op : Operation} {result : OperationResult}
    (settled : Settled before after op result) (failure : result.success = false) :
    ∀ a ∈ op.selection.cells, after.get? a = before.get? a := by
  cases settled with
  | kept => simp at failure
  | reverted _ intact => exact intact

theorem exists_of_mem {A B : Type} {R : A → B → Prop} {left : List A} {right : List B} {a : A}
    (related : List.Forall₂ R left right) (member : a ∈ left) : ∃ b ∈ right, R a b := by
  induction related with
  | nil => simp at member
  | @cons first b _ _ head _ ih =>
    rcases List.mem_cons.1 member with rfl | member
    · exact ⟨b, by simp, head⟩
    · obtain ⟨c, memberRight, later⟩ := ih member
      exact ⟨c, List.mem_cons_of_mem _ memberRight, later⟩

theorem exists_settled {before after : Cells} {operations : List Operation}
    {results : List OperationResult} {op : Operation}
    (settled : List.Forall₂ (Settled before after) operations results) (listed : op ∈ operations) :
    ∃ result ∈ results, Settled before after op result :=
  exists_of_mem settled listed

theorem exists_operation {before after : Cells} {operations : List Operation}
    {results : List OperationResult} {result : OperationResult}
    (settled : List.Forall₂ (Settled before after) operations results)
    (reported : result ∈ results) :
    ∃ op ∈ operations, Settled before after op result :=
  exists_of_mem settled.flip reported

namespace Operation

variable {operations : List Operation} {op : Operation} {a : Address}

theorem targeted_cons {rest : List Operation} :
    Targeted (op :: rest) a ↔ a ∈ op.selection.cells ∨ Targeted rest a := by
  simp [Targeted]

theorem targeted_head {rest : List Operation} (member : a ∈ op.selection.cells) :
    Targeted (op :: rest) a := targeted_cons.2 (.inl member)

theorem targeted_tail {rest : List Operation} (targeted : Targeted rest a) :
    Targeted (op :: rest) a := targeted_cons.2 (.inr targeted)

theorem get?_applyAll_of_not_targeted (untargeted : ¬ Targeted operations a) (cells : Cells) :
    (applyAll operations cells).get? a = cells.get? a := by
  induction operations generalizing cells with
  | nil => rfl
  | cons op rest ih =>
    rw [targeted_cons, not_or] at untargeted
    rw [applyAll, ih untargeted.2, get?_apply_of_not_mem untargeted.1]

theorem get?_applyAll_of_mem (apart : operations.Pairwise Apart) (listed : op ∈ operations)
    (member : a ∈ op.selection.cells) (cells : Cells) :
    (applyAll operations cells).get? a = op.outcome a (cells.get? a) := by
  induction operations generalizing cells with
  | nil => simp at listed
  | cons first rest ih =>
    obtain ⟨apartHead, apartRest⟩ := List.pairwise_cons.1 apart
    rw [applyAll]
    -- Only one operation of the list reads or writes the cell.
    rcases List.mem_cons.1 listed with rfl | listed
    · have later : ¬ Targeted rest a := by
        rintro ⟨p, listed, memberToo⟩
        exact apartHead p listed a member memberToo
      rw [get?_applyAll_of_not_targeted later, get?_apply]
    · have earlier : a ∉ first.selection.cells := by
        intro memberToo
        exact apartHead op listed a memberToo member
      rw [ih apartRest listed, get?_apply_of_not_mem earlier]

end Operation

theorem results_of_all_kept {before after : Cells} {operations : List Operation}
    {results : List OperationResult}
    (settled : List.Forall₂ (Settled before after) operations results)
    (success : ∀ r ∈ results, r.success = true) :
    results = operations.map fun op => op.report before := by
  induction settled with
  | nil => rfl
  | cons head _ ih =>
    rw [ih fun r listed => success r (by simp [listed])]
    have kept := success _ List.mem_cons_self
    cases head with
    | kept => rfl
    | reverted => simp [OperationResult.failed] at kept

theorem cells_of_all_kept {s t : Store} {operations : List Operation}
    {results : List OperationResult} (apart : operations.Pairwise Operation.Apart)
    (settled : List.Forall₂ (Settled s.cells t.cells) operations results)
    (success : ∀ r ∈ results, r.success = true)
    (touches : s.Touches t (Operation.Targeted operations)) :
    t.cells = Operation.applyAll operations s.cells := by
  refine SortedMap.ext_get? fun a => ?_
  by_cases targeted : Operation.Targeted operations a
  · obtain ⟨op, listed, member⟩ := targeted
    obtain ⟨result, reported, head⟩ := exists_settled settled listed
    rw [head.effect (success result reported) a member,
      Operation.get?_applyAll_of_mem apart listed member]
  · rw [touches.frame targeted, Operation.get?_applyAll_of_not_targeted targeted]

end CellLedger
