import CellLedger.Proofs.History.Reachable

/-!
What dropping the actions that are too old leaves of a history whose actions were recorded one after
another (`Timed.evict_blocks`). Of what can be undone the earliest actions go. What can be redone is
stacked the other way round: the earliest action, which the next redo would apply, goes first.
-/

set_option autoImplicit false

namespace CellLedger

namespace History

-- From the last one recorded to the first.
def actions (h : History) : List Action := h.undone.reverse ++ h.done

/-- Histories whose actions were recorded one after another, the last one at the given instant. -/
inductive Timed : Instant → History → Prop
  | start (config : HistoryConfig) : Timed 0 { config }
  | record {latest : Instant} {h : History} (timed : Timed latest h) (op : Operation)
      (result : OperationResult) (stamp : Stamp) (later : latest ≤ stamp.recordedAt)
      (now : Instant) : Timed stamp.recordedAt (h.record op result stamp now).2
  | recordBatch {latest : Instant} {h : History} (timed : Timed latest h)
      (operations : List Operation) (result : BatchResult) (stamp : Stamp)
      (later : latest ≤ stamp.recordedAt) (now : Instant) :
      Timed stamp.recordedAt (h.recordBatch operations result stamp now).2
  | undo {latest : Instant} {h : History} (timed : Timed latest h) (s : Store) :
      Timed latest (h.undo s).2.1
  | redo {latest : Instant} {h : History} (timed : Timed latest h) (s : Store) :
      Timed latest (h.redo s).2.1
  | evict {latest : Instant} {h : History} (timed : Timed latest h) (now : Instant) :
      Timed latest (h.evict now).2
  | clear {latest : Instant} {h : History} (timed : Timed latest h) : Timed latest h.clear

structure Ordered (h : History) (latest : Instant) : Prop where
  past : ∀ a ∈ h.actions, a.recordedAt ≤ latest
  descending : h.actions.Pairwise fun a b => b.recordedAt ≤ a.recordedAt

variable {h next : History} {latest : Instant}

theorem Ordered.of_sublist (ordered : h.Ordered latest) (kept : next.actions.Sublist h.actions) :
    next.Ordered latest where
  past a listed := ordered.past a (kept.subset listed)
  descending := ordered.descending.sublist kept

theorem Ordered.later (ordered : h.Ordered latest) {instant : Instant} (later : latest ≤ instant) :
    h.Ordered instant where
  past a listed := Nat.le_trans (ordered.past a listed) later
  descending := ordered.descending

theorem Ordered.evict (ordered : h.Ordered latest) (now : Instant) :
    (h.evict now).2.Ordered latest := by
  apply ordered.of_sublist
  simp only [actions, History.evict]
  exact List.filter_sublist.reverse.append List.filter_sublist

theorem Ordered.push (ordered : h.Ordered latest) {action : Action}
    (later : latest ≤ action.recordedAt) (now : Instant) :
    (h.push action now).Ordered action.recordedAt := by
  have grown : Ordered { h with done := action :: h.actions, undone := [] } action.recordedAt := by
    constructor
    · intro a listed
      simp only [actions, List.reverse_nil, List.nil_append, List.mem_cons] at listed
      rcases listed with rfl | earlier
      · exact Nat.le_refl _
      · exact Nat.le_trans (ordered.past a earlier) later
    · simp only [actions, List.reverse_nil, List.nil_append, List.pairwise_cons]
      exact ⟨fun a earlier => Nat.le_trans (ordered.past a earlier) later, ordered.descending⟩
  have pushed : Ordered
      { h with done := (action :: h.done).take h.config.maxActions, undone := [] }
      action.recordedAt := by
    apply grown.of_sublist
    simp only [actions, List.reverse_nil, List.nil_append]
    exact (List.take_sublist _ _).trans ((List.sublist_append_right _ _).cons_cons action)
  simp only [History.push]
  split
  · exact pushed.evict now
  · exact pushed

theorem Ordered.undo (ordered : h.Ordered latest) (s : Store) :
    (h.undo s).2.1.Ordered latest := by
  rcases h.undo_cases s with ⟨e, t, run, _⟩ | ⟨action, older, t, top, run, _⟩
  · rw [run]
    exact ordered
  · rw [run]
    apply ordered.of_sublist
    -- The action goes from the head of one part to the end of the other.
    have same : h.actions = (action :: h.undone).reverse ++ older := by simp [actions, top]
    rw [same]
    exact (List.take_sublist _ _).reverse.append_right older

theorem Ordered.redo (ordered : h.Ordered latest) (s : Store) :
    (h.redo s).2.1.Ordered latest := by
  rcases h.redo_cases s with ⟨e, t, run, _⟩ | ⟨action, older, t, top, run, _⟩
  · rw [run]
    exact ordered
  · rw [run]
    apply ordered.of_sublist
    have same : h.actions = older.reverse ++ (action :: h.done) := by simp [actions, top]
    rw [same]
    exact (List.take_sublist _ _).append_left older.reverse

theorem Timed.ordered (timed : Timed latest h) : h.Ordered latest := by
  induction timed with
  | start config => constructor <;> simp [actions]
  | @record latest h _ op result stamp later now ih =>
    rw [History.record]
    split
    · exact ih.later later
    · exact ih.push later now
  | @recordBatch latest h _ operations result stamp later now ih =>
    rw [History.recordBatch]
    split
    · exact ih.later later
    · have stamped := Action.recordedAt_ofBatch operations result stamp
      rw [← stamped] at later ⊢
      exact ih.push later now
  | undo _ s ih => exact ih.undo s
  | redo _ s ih => exact ih.redo s
  | evict _ now ih => exact ih.evict now
  | clear => constructor <;> simp [actions, History.clear]

-- What holds of an element only if it holds of all before it, holds of a first part.
theorem exists_eq_filter_append {A : Type} {keep : A → Bool} {listed : List A}
    (closed : listed.Pairwise fun a b => keep b = true → keep a = true) :
    ∃ dropped, listed = listed.filter keep ++ dropped ∧ ∀ a ∈ dropped, keep a = false := by
  induction listed with
  | nil => exact ⟨[], by simp⟩
  | cons first rest ih =>
    obtain ⟨head, tail⟩ := List.pairwise_cons.1 closed
    by_cases kept : keep first = true
    · obtain ⟨dropped, split, gone⟩ := ih tail
      refine ⟨dropped, ?_, gone⟩
      rw [List.filter_cons_of_pos kept, List.cons_append, ← split]
    · have none : ∀ a ∈ first :: rest, keep a = false := by
        intro a member
        rcases List.mem_cons.1 member with rfl | member
        · simpa using kept
        · exact Bool.eq_false_iff.2 fun keptToo => kept (head a member keptToo)
      have empty : (first :: rest).filter keep = [] := List.filter_eq_nil_iff.2 (by simpa using none)
      exact ⟨first :: rest, by rw [empty, List.nil_append], none⟩

section Freshness

variable {now : Instant} {a b : Action}

theorem isFresh_eq_false_iff :
    h.isFresh now a = false ↔ h.config.maxAge < Duration.between a.recordedAt now := by
  simp [isFresh]

theorem isFresh_eq_true_iff :
    h.isFresh now a = true ↔ ¬ h.config.maxAge < Duration.between a.recordedAt now := by
  simp [isFresh]

theorem isFresh_of_later (later : a.recordedAt ≤ b.recordedAt) (fresh : h.isFresh now a = true) :
    h.isFresh now b = true := by
  rw [isFresh_eq_true_iff] at fresh ⊢
  intro expired
  have younger : now - b.recordedAt ≤ now - a.recordedAt := Nat.sub_le_sub_left later now
  exact fresh (Nat.lt_of_lt_of_le expired younger)

end Freshness

theorem Ordered.oldest_dropped (ordered : h.Ordered latest) (now : Instant) :
    ∃ oldest, h.done = (h.evict now).2.done ++ oldest ∧
      ∀ a ∈ oldest, h.isFresh now a = false := by
  have descending := (List.pairwise_append.1 ordered.descending).2.1
  exact exists_eq_filter_append (descending.imp isFresh_of_later)

theorem Ordered.next_dropped (ordered : h.Ordered latest) (now : Instant) :
    ∃ next, h.undone = next ++ (h.evict now).2.undone ∧
      ∀ a ∈ next, h.isFresh now a = false := by
  have descending := (List.pairwise_append.1 ordered.descending).1
  obtain ⟨dropped, split, gone⟩ := exists_eq_filter_append (descending.imp isFresh_of_later)
  refine ⟨dropped.reverse, ?_, by simpa using gone⟩
  rw [← List.reverse_reverse h.undone, split, List.filter_reverse]
  simp [History.evict]

-- The history after a write to one more cell.
def marked (h : History) (column : UInt32) (time : Instant) : History :=
  let op : Operation := .overwriteText (.single ⟨0, column⟩) "x"
  (h.record op (op.report ∅) ⟨⟨0⟩, time⟩ time).2

theorem Timed.marked (timed : Timed latest h) (column : UInt32) {time : Instant}
    (later : latest ≤ time) : Timed time (h.marked column time) :=
  timed.record _ _ ⟨⟨0⟩, time⟩ later time

theorem Timed.evict_blocks (timed : Timed latest h) (now : Instant) :
    let kept := (h.evict now).2
    ∃ oldest next, h.done = kept.done ++ oldest ∧ h.undone = next ++ kept.undone ∧
      (h.evict now).1 = oldest.length + next.length ∧
      (∀ a ∈ oldest ++ next, h.config.maxAge < Duration.between a.recordedAt now) ∧
      (∀ a ∈ kept.done ++ kept.undone, ¬ h.config.maxAge < Duration.between a.recordedAt now) ∧
      (next ≠ [] → kept.done = []) ∧
      ∀ action later, h.undone = action :: later →
        ¬ h.config.maxAge < Duration.between action.recordedAt now → kept.undone = h.undone := by
  intro kept
  have ordered := timed.ordered
  obtain ⟨oldest, done, goneDone⟩ := ordered.oldest_dropped now
  obtain ⟨next, undone, goneUndone⟩ := ordered.next_dropped now
  refine ⟨oldest, next, done, undone, ?_, ?_, ?_, ?_, ?_⟩
  · have lengthDone : h.done.length = kept.done.length + oldest.length := by
      rw [done, List.length_append]
    have lengthUndone : h.undone.length = next.length + kept.undone.length := by
      rw [undone, List.length_append]
    change h.done.length + h.undone.length - (kept.done.length + kept.undone.length) = _
    omega
  · intro a listed
    rw [← isFresh_eq_false_iff]
    rcases List.mem_append.1 listed with member | member
    · exact goneDone a member
    · exact goneUndone a member
  · intro a listed
    rw [← isFresh_eq_true_iff]
    rcases List.mem_append.1 listed with member | member
    · exact (List.mem_filter.1 member).2
    · exact (List.mem_filter.1 member).2
  · intro some
    obtain ⟨first, rest, rfl⟩ := List.exists_cons_of_ne_nil some
    have between := (List.pairwise_append.1 ordered.descending).2.2
    have expired := goneUndone first (by simp)
    -- Whatever can be undone was recorded before this action.
    refine List.filter_eq_nil_iff.2 fun a member fresh => ?_
    have earlier := between first (by simp [undone]) a member
    rw [isFresh_of_later earlier fresh] at expired
    cases expired
  · intro action later top fresh
    cases next with
    | nil => simpa using undone.symm
    | cons first rest =>
      have same : action = first := by
        rw [top, List.cons_append] at undone
        exact (List.cons.inj undone).1
      have expired := goneUndone first (by simp)
      rw [← same, isFresh_eq_true_iff.2 fresh] at expired
      cases expired

-- The last two of three actions are undone when the first two are too old.
theorem Timed.evict_blocks_of_three :
    let start : History := { config := { maxAge := ⟨60⟩ } }
    let three := ((start.marked 0 0).marked 1 30).marked 2 50
    let h := ((three.undo {}).2.1.undo {}).2.1
    let kept := (h.evict 95).2
    Timed 50 h ∧ h.done.map (·.recordedAt) = [0] ∧ h.undone.map (·.recordedAt) = [30, 50] ∧
      kept.undone.map (·.recordedAt) = [50] ∧
      ∃ oldest next, h.done = kept.done ++ oldest ∧ h.undone = next ++ kept.undone ∧
        (h.evict 95).1 = oldest.length + next.length ∧ (next ≠ [] → kept.done = []) := by
  intro start three h kept
  have recorded : Timed 50 three :=
    (((Timed.start _).marked 0 (by decide)).marked 1 (by decide)).marked 2 (by decide)
  have timed : Timed 50 h := (recorded.undo {}).undo {}
  have times : h.done.map (·.recordedAt) = [0] ∧ h.undone.map (·.recordedAt) = [30, 50] ∧
      kept.undone.map (·.recordedAt) = [50] := by
    decide +kernel
  obtain ⟨oldest, next, done, undone, count, _, _, gone, _⟩ := timed.evict_blocks 95
  exact ⟨timed, times.1, times.2.1, times.2.2, oldest, next, done, undone, count, gone⟩

-- Both actions are undone when the first is too old. Then only the second can be redone, and the
-- cell that the first had written before stays empty.
theorem evict_not_contiguous :
    let start : History := { config := { maxAge := ⟨60⟩ } }
    let both : Cells := ((∅ : Cells).insert ⟨0, 0⟩ (.text "x")).insert ⟨0, 1⟩ (.text "x")
    let back := ((start.marked 0 0).marked 1 30).undo (.ofCells both)
    let again := back.2.1.undo back.2.2
    let h := again.2.1
    let kept := (h.evict 75).2
    let redone := kept.redo again.2.2
    Timed 30 h ∧ again.2.2.cells = ∅ ∧ kept.undone ≠ [] ∧ kept.undone.head? ≠ h.undone.head? ∧
      redone.1.isOk = true ∧ redone.2.2.cells.keys = [⟨0, 1⟩] := by
  intro start both back again h kept redone
  have recorded : Timed 30 ((start.marked 0 0).marked 1 30) :=
    ((Timed.start _).marked 0 (by decide)).marked 1 (by decide)
  have timed : Timed 30 h := (recorded.undo _).undo _
  refine ⟨timed, ?_⟩
  decide +kernel

end History

end CellLedger
