import CellLedger.Batch.Run
import CellLedger.Proofs.Batch.Settled
import CellLedger.Proofs.Batch.Snapshot

/-!
What a run of a batch's operations leaves, whatever is refused: `runFrom_ran`. Since the operations
target disjoint cells, none disturbs what another did, and an operation that is put back leaves the
store as it found it.
-/

set_option autoImplicit false

namespace CellLedger

open Operation (targeted_head targeted_tail)

/-- How a run of operations leads from `s` to `t`. It stops at most at one operation `op`; those
before it are settled, and those after it were not executed. -/
inductive Ran (id : BatchId) (autoRollback : Bool) (s t : Store) : List Operation → Run → Prop
  | finished {operations : List Operation} {results : List OperationResult} {errors : List String}
      (settled : List.Forall₂ (Settled s.cells t.cells) operations results)
      (clean : errors = [] ↔ ∀ r ∈ results, r.success = true)
      (strict : autoRollback = true → errors = [])
      (touches : s.Touches t (Operation.Targeted operations)) :
      Ran id autoRollback s t operations ⟨results, errors, .finished⟩
  | abandoned {kept rest : List Operation} {op : Operation} {results : List OperationResult}
      {cause error : String} (rollback : autoRollback = true)
      (settled : List.Forall₂ (Settled s.cells t.cells) kept results)
      (clean : ∀ r ∈ results, r.success = true)
      (touches : s.Touches t (Operation.Targeted (kept ++ [op]))) :
      Ran id autoRollback s t (kept ++ op :: rest)
        ⟨results ++ [.failed op.kind [cause]], [error], .abandoned⟩
  | stuck {kept rest : List Operation} {op : Operation} {results : List OperationResult}
      {errors : List String} {cause reason : String} {refused : List Address}
      (partially : autoRollback = false)
      (settled : List.Forall₂ (Settled s.cells t.cells) kept results)
      (inside : ∀ a ∈ refused, a ∈ op.selection.cells)
      (restored : ∀ a ∈ op.selection.cells, a ∉ refused → t.cells.get? a = s.cells.get? a)
      (touches : s.Touches t (Operation.Targeted (kept ++ [op]))) :
      Ran id autoRollback s t (kept ++ op :: rest)
        ⟨results ++ [.failed op.kind [cause]], errors, .stuck (.rollbackFailed id refused reason)⟩

section Step

variable {s t u : Store} {op : Operation} {rest : List Operation} {result : OperationResult}

theorem targeted_of_stop {kept later : List Operation} {a : Address}
    (targeted : Operation.Targeted (kept ++ [op]) a) :
    Operation.Targeted (kept ++ op :: later) a := by
  obtain ⟨p, listed, member⟩ := targeted
  refine ⟨p, ?_, member⟩
  rcases List.mem_append.1 listed with listed | listed
  · exact List.mem_append_left _ listed
  · exact List.mem_append_right _ (by simp [List.mem_singleton.1 listed])

theorem Ran.touches {id : BatchId} {autoRollback : Bool} {operations : List Operation} {run : Run}
    (ran : Ran id autoRollback s t operations run) :
    s.Touches t (Operation.Targeted operations) := by
  cases ran with
  | finished _ _ _ touches => exact touches
  | abandoned _ _ _ touches => exact touches.mono fun _ targeted => targeted_of_stop targeted
  | stuck _ _ _ _ touches => exact touches.mono fun _ targeted => targeted_of_stop targeted

theorem Ran.of_abandoned {id : BatchId} {autoRollback : Bool} {operations : List Operation}
    {run : Run} (ran : Ran id autoRollback s t operations run) (ending : run.ending = .abandoned) :
    autoRollback = true ∧ ∃ kept op later results cause,
      operations = kept ++ op :: later ∧ run.results = results ++ [.failed op.kind [cause]] ∧
      List.Forall₂ (Settled s.cells t.cells) kept results ∧ ∀ r ∈ results, r.success = true := by
  cases ran with
  | finished => simp at ending
  | abandoned rollback settled clean => exact ⟨rollback, _, _, _, _, _, rfl, rfl, settled, clean⟩
  | stuck => simp at ending

theorem Ran.length_errors_of_abandoned {id : BatchId} {autoRollback : Bool}
    {operations : List Operation} {run : Run} (ran : Ran id autoRollback s t operations run)
    (ending : run.ending = .abandoned) : run.errors.length = 1 := by
  cases ran with
  | finished => simp at ending
  | abandoned => rfl
  | stuck => simp at ending

theorem Ran.of_finished {id : BatchId} {autoRollback : Bool} {operations : List Operation}
    {run : Run} (ran : Ran id autoRollback s t operations run) (ending : run.ending = .finished) :
    List.Forall₂ (Settled s.cells t.cells) operations run.results ∧
      (run.errors = [] ↔ ∀ r ∈ run.results, r.success = true) ∧
      (autoRollback = true → run.errors = []) := by
  cases ran with
  | finished settled clean strict => exact ⟨settled, clean, strict⟩
  | abandoned => simp at ending
  | stuck => simp at ending

theorem Ran.of_stuck {id : BatchId} {autoRollback : Bool} {operations : List Operation} {run : Run}
    {e : BatchError} (ran : Ran id autoRollback s t operations run)
    (ending : run.ending = .stuck e) :
    autoRollback = false ∧ ∃ kept op later results cause refused reason,
      operations = kept ++ op :: later ∧ run.results = results ++ [.failed op.kind [cause]] ∧
      e = .rollbackFailed id refused reason ∧
      List.Forall₂ (Settled s.cells t.cells) kept results ∧
      (∀ a ∈ refused, a ∈ op.selection.cells) ∧
      (∀ a ∈ op.selection.cells, a ∉ refused → t.cells.get? a = s.cells.get? a) ∧
      s.Touches t (Operation.Targeted (kept ++ [op])) := by
  cases ran with
  | finished => simp at ending
  | abandoned => simp at ending
  | stuck partially settled inside restored touches =>
    cases ending
    exact ⟨partially, _, _, _, _, _, _, _, rfl, rfl, rfl, settled, inside, restored, touches⟩

theorem Ran.of_single {id : BatchId} {autoRollback : Bool} {run : Run}
    (ran : Ran id autoRollback s t [op] run) (ending : run.ending = .finished) :
    (run.results = [op.report s.cells] ∧ t.cells = op.apply s.cells) ∨
      ∃ cause, run.results = [.failed op.kind [cause]] ∧ t.cells = s.cells := by
  obtain ⟨settled, _, _⟩ := ran.of_finished ending
  have elsewhere (a : Address) (outside : a ∉ op.selection.cells) :
      t.cells.get? a = s.cells.get? a :=
    ran.touches.frame (by simp [Operation.Targeted, outside])
  generalize run.results = results at settled
  cases settled with
  | cons head none =>
    cases none
    cases head with
    | kept effect =>
      refine .inl ⟨rfl, SortedMap.ext_get? fun a => ?_⟩
      rw [Operation.get?_apply]
      by_cases member : a ∈ op.selection.cells
      · exact effect a member
      · rw [elsewhere a member, Operation.outcome_of_not_mem member]
    | reverted cause intact =>
      refine .inr ⟨cause, rfl, SortedMap.ext_get? fun a => ?_⟩
      by_cases member : a ∈ op.selection.cells
      · exact intact a member
      · exact elsewhere a member

theorem touches_cons (first : s.Touches u (· ∈ op.selection.cells))
    (more : u.Touches t (Operation.Targeted rest)) :
    s.Touches t (Operation.Targeted (op :: rest)) :=
  (first.mono fun _ => targeted_head).trans (more.mono fun _ => targeted_tail)

theorem settled_cons {kept : List Operation} {results : List OperationResult}
    (apart : ∀ p ∈ rest, op.Apart p) (within : ∀ p ∈ kept, p ∈ rest)
    (first : s.Touches u (· ∈ op.selection.cells)) (more : u.Touches t (Operation.Targeted rest))
    (head : Settled s.cells u.cells op result)
    (settled : List.Forall₂ (Settled u.cells t.cells) kept results) :
    List.Forall₂ (Settled s.cells t.cells) (op :: kept) (result :: results) := by
  -- The rest leaves the cells of the first operation alone, and the first those of the rest.
  refine .cons (head.congr (fun _ _ => rfl) fun a member => more.frame ?_) ?_
  · rintro ⟨p, listed, memberToo⟩
    exact apart p listed a member memberToo
  · rw [List.forall₂_iff_get] at settled ⊢
    refine ⟨settled.1, fun i bound boundResult => ?_⟩
    refine (settled.2 i bound boundResult).congr (fun a member => first.frame ?_) fun _ _ => rfl
    exact fun memberToo => apart _ (within _ (List.get_mem kept ⟨i, bound⟩)) a memberToo member

theorem Ran.cons {id : BatchId} {autoRollback : Bool} {errors : List String} {run : Run}
    (apart : ∀ p ∈ rest, op.Apart p) (first : s.Touches u (· ∈ op.selection.cells))
    (head : Settled s.cells u.cells op result)
    (clean : errors = [] ↔ result.success = true) (strict : autoRollback = true → errors = [])
    (ran : Ran id autoRollback u t rest run) :
    Ran id autoRollback s t (op :: rest) (run.precede result errors) := by
  cases ran with
  | finished settled cleanRest strictRest touches =>
    refine .finished (settled_cons apart (fun _ listed => listed) first touches head settled)
      ?_ ?_ (touches_cons first touches)
    · simp [clean, cleanRest]
    · intro rollback
      simp [strict rollback, strictRest rollback]
  | @abandoned kept later next results cause error rollback settled cleanRest touches =>
    have within : ∀ p ∈ kept, p ∈ kept ++ next :: later := fun p listed => by simp [listed]
    have reached := touches.mono fun a => @targeted_of_stop next kept later a
    have none := strict rollback
    have run : Ran id autoRollback s t ((op :: kept) ++ next :: later)
        ⟨(result :: results) ++ [.failed next.kind [cause]], [error], .abandoned⟩ := by
      refine .abandoned rollback (settled_cons apart within first reached head settled) ?_
        (touches_cons first touches)
      simpa [clean.1 none] using cleanRest
    simpa [Run.precede, none] using run
  | @stuck kept later next results _ cause reason refused partially settled inside restored
      touches =>
    have within : ∀ p ∈ kept, p ∈ kept ++ next :: later := fun p listed => by simp [listed]
    have reached := touches.mono fun a => @targeted_of_stop next kept later a
    refine .stuck partially (settled_cons apart within first reached head settled) inside
      (fun a member accepted => ?_) (touches_cons first touches)
    rw [restored a member accepted, first.frame fun memberToo => ?_]
    exact apart next (by simp) a memberToo member

end Step

namespace Batch

/-- The cells of the operations are captured to hold what they hold. -/
def Captures (b : Batch) (operations : List Operation) (s : Store) : Prop :=
  ∀ op ∈ operations, b.capturedOf op = s.cells.snapshot op.selection.cells

-- What the first operation does leaves the cells of those still to come as they were captured.
theorem Captures.later {b : Batch} {op : Operation} {rest : List Operation} {s t : Store}
    (captures : b.Captures (op :: rest) s) (apart : ∀ p ∈ rest, op.Apart p)
    (first : s.Touches t (· ∈ op.selection.cells)) : b.Captures rest t := by
  intro p listed
  rw [captures p (List.mem_cons_of_mem _ listed)]
  refine Cells.snapshot_congr fun a member => (first.frame fun memberToo => ?_).symm
  exact apart p listed a memberToo member

theorem runFrom_ran (b : Batch) (autoRollback : Bool) (index : Nat) {operations : List Operation}
    (apart : operations.Pairwise Operation.Apart) (s : Store)
    (captures : b.Captures operations s) :
    Ran b.id autoRollback s (b.runFrom autoRollback index operations s).2 operations
      (b.runFrom autoRollback index operations s).1 := by
  induction operations generalizing index s with
  | nil => exact .finished .nil (by simp) (fun _ => rfl) (.refl s _)
  | cons op rest ih =>
    obtain ⟨apartHead, apartRest⟩ := List.pairwise_cons.1 apart
    rcases op.execute_cases s with ⟨e, u, _, _, _, run, _, _, refuses⟩ | ⟨u, run, cells, touches⟩
    · simp only [runFrom, run]
      by_cases rollback : autoRollback = true
      · rw [if_pos rollback]
        refine @Ran.abandoned _ _ s u [] rest op [] _ _ rollback .nil (by simp) ?_
        exact refuses.touches.mono fun a member => ⟨op, by simp, member⟩
      · rw [if_neg rollback, captures op (by simp)]
        -- The operation altered its own cells only, and all of these were captured.
        rcases restore_snapshot (fun a outside => refuses.touches.frame outside) b.id with
          ⟨refused, reason, v, restored, inside, intact, touchesBack⟩ |
          ⟨n, v, restored, intact, touchesBack⟩
        · simp only [restored]
          refine @Ran.stuck _ _ s v [] rest op [] _ _ reason refused (by simpa using rollback) .nil
            inside (fun a _ accepted => intact a accepted) ?_
          exact (refuses.touches.trans touchesBack).mono fun a member => ⟨op, by simp, member⟩
        · simp only [restored]
          have first := refuses.touches.trans touchesBack
          exact .cons apartHead first (.reverted _ fun a _ => by rw [intact])
            (by simp [OperationResult.failed]) (fun h => absurd h rollback)
            (ih (index + 1) apartRest v (captures.later apartHead first))
    · simp only [runFrom, run]
      refine .cons apartHead touches (.kept fun a _ => ?_) (by simp) (fun _ => rfl)
        (ih (index + 1) apartRest u (captures.later apartHead touches))
      rw [cells, Operation.get?_apply]

theorem mem_selection_of_mem_capturedOf {b : Batch} {op : Operation} {a : Address}
    (member : a ∈ (b.capturedOf op).keys) : a ∈ op.selection.cells := by
  obtain ⟨v, found⟩ := SortedMap.mem_keys_iff.1 member
  rw [capturedOf, SortedMap.get?_filter, Option.filter_eq_some_iff] at found
  simpa [Selection.contains] using found.2

-- Whatever the first operation answers, the run goes on from where it left the store.
theorem runFrom_after {b : Batch} {autoRollback : Bool} {op : Operation} {rest : List Operation}
    (later : ∀ index (t : Store),
      t.Touches (b.runFrom autoRollback index rest t).2 (Operation.Targeted rest))
    (index : Nat) (s : Store) :
    (op.execute s).2.Touches (b.runFrom autoRollback index (op :: rest) s).2
      (Operation.Targeted (op :: rest)) := by
  have ofRest (i : Nat) (t : Store) :
      t.Touches (b.runFrom autoRollback i rest t).2 (Operation.Targeted (op :: rest)) :=
    (later i t).mono fun _ => targeted_tail
  generalize run : op.execute s = outcome
  obtain ⟨reply, t⟩ := outcome
  cases reply with
  | ok result =>
    simp only [runFrom, run]
    exact ofRest (index + 1) t
  | error e =>
    simp only [runFrom, run]
    split
    · exact .refl t _
    · have back :
          t.Touches (restore b.id (b.capturedOf op) t).2 (Operation.Targeted (op :: rest)) :=
        (restore_touches b.id (b.capturedOf op) t).mono fun _ member =>
          targeted_head (mem_selection_of_mem_capturedOf member)
      generalize restore b.id (b.capturedOf op) t = outcome at back ⊢
      obtain ⟨reply, u⟩ := outcome
      cases reply with
      | error e => exact back
      | ok n => exact back.trans (ofRest (index + 1) u)

theorem runFrom_touches (b : Batch) (autoRollback : Bool) (index : Nat)
    (operations : List Operation) (s : Store) :
    s.Touches (b.runFrom autoRollback index operations s).2 (Operation.Targeted operations) := by
  induction operations generalizing index s with
  | nil => exact .refl s _
  | cons op rest ih =>
    exact ((op.execute_touches s).mono fun _ => targeted_head).trans (runFrom_after ih index s)

/-- The texts that a run reports of its failed operations; the first of the operations has the given
index in the batch. -/
def failureTexts : Nat → List Operation → List OperationResult → List String
  | index, op :: operations, result :: results =>
    let later := failureTexts (index + 1) operations results
    if result.success then later
    else
      let reason := "; ".intercalate result.errors
      (BatchError.operationFailed index op.description reason).message :: later
  | _, _, _ => []

theorem runFrom_errors (b : Batch) (autoRollback : Bool) (index : Nat)
    (operations : List Operation) (s : Store) :
    (b.runFrom autoRollback index operations s).1.errors =
      failureTexts index operations (b.runFrom autoRollback index operations s).1.results := by
  induction operations generalizing index s with
  | nil => rfl
  | cons op rest ih =>
    rcases op.execute_cases s with ⟨e, t, _, _, _, run, _⟩ | ⟨t, run, _⟩
    · simp only [runFrom, run]
      split
      · simp [failureTexts, OperationResult.failed]
      · generalize restore b.id (b.capturedOf op) t = outcome
        obtain ⟨reply, u⟩ := outcome
        cases reply with
        | error e => simp [failureTexts, OperationResult.failed]
        | ok n => simp [failureTexts, OperationResult.failed, Run.precede, ih (index + 1) u]
    · simp [runFrom, run, failureTexts, Run.precede, ih (index + 1) t]

theorem length_failureTexts_le (index : Nat) (operations : List Operation)
    (results : List OperationResult) :
    (failureTexts index operations results).length ≤ results.length := by
  induction operations generalizing index results with
  | nil => simp [failureTexts]
  | cons op rest ih =>
    cases results with
    | nil => simp [failureTexts]
    | cons r results =>
      have later := ih (index + 1) results
      by_cases success : r.success = true <;> simp [failureTexts, success] <;> omega

-- If all that ran before succeeded, only the last operation is told of.
theorem failureTexts_of_last (index : Nat) {kept later : List Operation} {op : Operation}
    {results : List OperationResult} {result : OperationResult}
    (counted : kept.length = results.length) (clean : ∀ r ∈ results, r.success = true)
    (failed : result.success = false) :
    failureTexts index (kept ++ op :: later) (results ++ [result]) =
      [(BatchError.operationFailed (index + kept.length) op.description
        ("; ".intercalate result.errors)).message] := by
  induction kept generalizing index results with
  | nil =>
    obtain rfl := List.length_eq_zero_iff.1 counted.symm
    simp [failureTexts, failed]
  | cons first rest ih =>
    cases results with
    | nil => simp at counted
    | cons r results =>
      have later := ih (index + 1) (by simpa using counted)
        fun r listed => clean r (by simp [listed])
      simpa [failureTexts, clean r, Nat.add_assoc, Nat.add_comm 1] using later

end Batch

end CellLedger
