import CellLedger.Proofs.History.Bridges
import CellLedger.Proofs.Sheet.Single

/-!
Undo and redo as a walk along a timeline of contents. A recorded commit drops what lies ahead of the
cursor and appends the new contents; an undo moves the cursor back, a redo forth. The store holds
what the timeline has at the cursor, up to equality of values, whatever the histories' bounds have
dropped (`Reached.follows_timeline`).
-/

set_option autoImplicit false

namespace CellLedger

structure Timeline where
  entries : List Cells
  cursor : Nat := 0

namespace Timeline

def record (t : Timeline) (contents : Cells) : Timeline where
  entries := t.entries.take (t.cursor + 1) ++ [contents]
  cursor := t.cursor + 1

def back (t : Timeline) : Timeline := { t with cursor := t.cursor - 1 }

def forth (t : Timeline) : Timeline := { t with cursor := t.cursor + 1 }

def Shows (t : Timeline) (contents : Cells) : Prop :=
  ∃ current, t.entries[t.cursor]? = some current ∧ contents.Same current

def Bridged (t : Timeline) (k : Nat) (action : Action) : Prop :=
  ∃ before after, t.entries[k]? = some before ∧ t.entries[k + 1]? = some after ∧
    Bridges before after action

end Timeline

/-- The actions that can be undone lead to the cursor one after another, and those that can be
redone lead on from it. -/
structure History.Follows (h : History) (t : Timeline) : Prop where
  done : ∀ i a, h.done[i]? = some a → ∃ k, t.cursor = k + i + 1 ∧ t.Bridged k a
  undone : ∀ i a, h.undone[i]? = some a → t.Bridged (t.cursor + i) a

section Follows

variable {h : History} {t : Timeline} {action : Action} {older : List Action}

theorem Timeline.getElem?_record {contents shown : Cells} (shows : t.Shows shown) {k : Nat}
    (earlier : k ≤ t.cursor) : (t.record contents).entries[k]? = t.entries[k]? := by
  obtain ⟨current, found, _⟩ := shows
  obtain ⟨bound, _⟩ := List.getElem?_eq_some_iff.1 found
  -- The cursor is inside the timeline, so that nothing up to it is dropped.
  have kept : k < (t.entries.take (t.cursor + 1)).length := by
    rw [List.length_take]
    omega
  rw [record, List.getElem?_append_left kept, List.getElem?_take, if_pos (by omega)]

theorem Timeline.getElem?_record_last {contents shown : Cells} (shows : t.Shows shown) :
    (t.record contents).entries[t.cursor + 1]? = some contents := by
  obtain ⟨current, found, _⟩ := shows
  obtain ⟨bound, _⟩ := List.getElem?_eq_some_iff.1 found
  have kept : (t.entries.take (t.cursor + 1)).length = t.cursor + 1 := by
    rw [List.length_take]
    omega
  rw [record, List.getElem?_append_right (by omega), kept, Nat.sub_self]
  rfl

theorem Timeline.Bridged.record {contents shown : Cells} {k : Nat} (bridged : t.Bridged k action)
    (shows : t.Shows shown) (earlier : k < t.cursor) : (t.record contents).Bridged k action := by
  obtain ⟨before, after, first, last, bridges⟩ := bridged
  refine ⟨before, after, ?_, ?_, bridges⟩
  · rw [getElem?_record shows (by omega), first]
  · rw [getElem?_record shows (by omega), last]

theorem History.Follows.record {contents shown : Cells} (follows : h.Follows t)
    (shows : t.Shows shown) {current : Cells} (found : t.entries[t.cursor]? = some current)
    (bridges : Bridges current contents action) (bound : Nat) :
    History.Follows { h with done := (action :: h.done).take bound, undone := [] }
      (t.record contents) where
  done i a listed := by
    rw [List.getElem?_take] at listed
    split at listed
    · cases i with
      | zero =>
        simp only [List.getElem?_cons_zero, Option.some.injEq] at listed
        subst listed
        refine ⟨t.cursor, rfl, current, contents, ?_, ?_, bridges⟩
        · rw [Timeline.getElem?_record shows (Nat.le_refl _), found]
        · exact Timeline.getElem?_record_last shows
      | succ i =>
        obtain ⟨k, cursor, bridged⟩ := follows.done i a (by simpa using listed)
        refine ⟨k, ?_, bridged.record shows (by omega)⟩
        simp only [Timeline.record]
        omega
    · simp at listed
  undone i a listed := by simp at listed

theorem History.Follows.undo (follows : h.Follows t) (top : h.done = action :: older)
    (bound : Nat) :
    History.Follows { h with done := older, undone := (action :: h.undone).take bound } t.back := by
  obtain ⟨last, cursor, bridged⟩ := follows.done 0 action (by simp [top])
  have back : t.back.cursor = last := by
    simp only [Timeline.back]
    omega
  refine ⟨fun i a listed => ?_, fun i a listed => ?_⟩
  · -- An older action keeps its place, and the cursor has come one step nearer.
    obtain ⟨k, position, bridged⟩ := follows.done (i + 1) a (by simpa [top] using listed)
    refine ⟨k, ?_, bridged⟩
    omega
  · rw [List.getElem?_take] at listed
    rw [back]
    split at listed
    · cases i with
      | zero =>
        simp only [List.getElem?_cons_zero, Option.some.injEq] at listed
        exact listed ▸ bridged
      | succ i =>
        have later := follows.undone i a (by simpa using listed)
        rwa [cursor, show last + 0 + 1 + i = last + (i + 1) by omega] at later
    · simp at listed

theorem History.Follows.redo (follows : h.Follows t) (top : h.undone = action :: older)
    (bound : Nat) :
    History.Follows { h with done := (action :: h.done).take bound, undone := older } t.forth := by
  have bridged := follows.undone 0 action (by simp [top])
  refine ⟨fun i a listed => ?_, fun i a listed => ?_⟩
  · rw [List.getElem?_take] at listed
    split at listed
    · cases i with
      | zero =>
        simp only [List.getElem?_cons_zero, Option.some.injEq] at listed
        exact ⟨t.cursor, rfl, listed ▸ bridged⟩
      | succ i =>
        obtain ⟨k, cursor, bridged⟩ := follows.done i a (by simpa using listed)
        refine ⟨k, ?_, bridged⟩
        simp only [Timeline.forth]
        omega
    · simp at listed
  · have later := follows.undone (i + 1) a (by simpa [top] using listed)
    simp only [Timeline.forth]
    rwa [show t.cursor + 1 + i = t.cursor + (i + 1) by omega]

end Follows

structure Workbench where
  sheet : Sheet
  history : History
  timeline : Timeline

namespace Workbench

-- What was just carried out is an entry of the timeline only if it was recorded.
def take (w : Workbench) : Option ActionId × History → Workbench
  | (none, history) => { w with history }
  | (some _, history) =>
    { w with history, timeline := w.timeline.record w.sheet.store.cells }

def commit (w : Workbench) (id : BatchId) (operations : List Operation) (now : Instant)
    (stamp : Stamp) (recording : Instant) : Workbench :=
  match w.sheet.commit id now with
  | (.error _, sheet) => { w with sheet }
  | (.ok result, sheet) =>
    take { w with sheet } (w.history.recordBatch operations result stamp recording)

def executeSingle (w : Workbench) (op : Operation) (begun now : Instant) (stamp : Stamp)
    (recording : Instant) : Workbench :=
  match w.sheet.executeSingle op begun now with
  | (.error _, sheet) => { w with sheet }
  | (.ok result, sheet) => take { w with sheet } (w.history.record op result stamp recording)

def undo (w : Workbench) : Workbench :=
  match w.history.undo w.sheet.store with
  | (.error _, history, store) => { w with history, sheet := { w.sheet with store } }
  | (.ok _, history, store) =>
    { history, sheet := { w.sheet with store }, timeline := w.timeline.back }

def redo (w : Workbench) : Workbench :=
  match w.history.redo w.sheet.store with
  | (.error _, history, store) => { w with history, sheet := { w.sheet with store } }
  | (.ok _, history, store) =>
    { history, sheet := { w.sheet with store }, timeline := w.timeline.forth }

/-- The runs on one store that no one else writes. Faults may be armed at any time, but none hits an
undo or a redo, or keeps contents from being put back. -/
inductive Reached : Workbench → Prop
  | start {sheet : Sheet} (reachable : sheet.Reachable) (config : HistoryConfig) :
      Reached { sheet, history := { config }, timeline := { entries := [sheet.store.cells] } }
  | arm {w : Workbench} (reached : Reached w) {store : Store}
      (same : store.cells = w.sheet.store.cells) :
      Reached { w with sheet := { w.sheet with store } }
  | quiet {w : Workbench} (reached : Reached w) (now : Instant) {c : BatchCall}
      (quiet : c.isQuiet = true) : Reached { w with sheet := (w.sheet.call now c).2 }
  | commit {w : Workbench} (reached : Reached w) (rollback : w.sheet.config.autoRollback = true)
      {id : BatchId} {b : Batch} (held : w.sheet.batch? id = some b) {now : Instant}
      (restored : ∀ e, (w.sheet.commit id now).1 = .error e → e.isFatal = false)
      {stamp : Stamp} {recording : Instant} (young : w.history.NoneExpired stamp recording) :
      Reached (w.commit id b.operations now stamp recording)
  | executeSingle {w : Workbench} (reached : Reached w) {op : Operation} {begun now : Instant}
      (restored : ∀ e, (w.sheet.executeSingle op begun now).1 = .error e → e.isFatal = false)
      {stamp : Stamp} {recording : Instant} (young : w.history.NoneExpired stamp recording) :
      Reached (w.executeSingle op begun now stamp recording)
  | undo {w : Workbench} (reached : Reached w)
      (unhindered : w.sheet.store.Unhindered w.undo.sheet.store) : Reached w.undo
  | redo {w : Workbench} (reached : Reached w)
      (unhindered : w.sheet.store.Unhindered w.redo.sheet.store) : Reached w.redo

structure Consistent (w : Workbench) : Prop where
  sound : w.sheet.Sound
  shows : w.timeline.Shows w.sheet.store.cells
  follows : w.history.Follows w.timeline

variable {w : Workbench}

theorem Consistent.with_sheet (consistent : w.Consistent) {sheet : Sheet} (sound : sheet.Sound)
    (same : sheet.store.cells = w.sheet.store.cells) : Consistent { w with sheet } where
  sound := sound
  shows := same ▸ consistent.shows
  follows := consistent.follows

theorem Consistent.record (consistent : w.Consistent) {sheet : Sheet} (sound : sheet.Sound)
    {action : Action}
    (bridges : ∀ current, w.sheet.store.cells.Same current →
      Bridges current sheet.store.cells action) (id : ActionId) {stamp : Stamp}
    {recording : Instant} (young : w.history.NoneExpired stamp recording)
    (stamped : action.recordedAt = stamp.recordedAt) :
    Consistent (take { w with sheet } (some id, w.history.push action recording)) := by
  obtain ⟨current, found, same⟩ := consistent.shows
  rw [History.push_of_noneExpired young stamped]
  refine ⟨sound, ⟨sheet.store.cells, ?_, .refl _⟩, ?_⟩
  · exact Timeline.getElem?_record_last consistent.shows
  · exact consistent.follows.record consistent.shows found (bridges current same) _

theorem Consistent.take (consistent : w.Consistent) {sheet : Sheet} (sound : sheet.Sound)
    {success : Bool} {changes : ChangeSet} {action : Action}
    (settles : (success = true ∧ changes.Between w.sheet.store.cells sheet.store.cells ∧
        ∀ current, w.sheet.store.cells.Same current →
          Bridges current sheet.store.cells action) ∨
      (sheet.store.cells = w.sheet.store.cells ∧ success = false))
    (id : ActionId) {stamp : Stamp} {recording : Instant}
    (young : w.history.NoneExpired stamp recording)
    (stamped : action.recordedAt = stamp.recordedAt) :
    Consistent (take { w with sheet }
      (if !success || changes.isEmpty then (none, w.history)
        else (some id, w.history.push action recording))) := by
  -- What took effect is recorded unless it altered nothing, and what did not is not.
  rcases settles with ⟨rfl, between, bridges⟩ | ⟨same, rfl⟩
  · by_cases none : changes.isEmpty = true
    · rw [if_pos (by simp [none])]
      exact consistent.with_sheet sound (between.eq_of_isEmpty none)
    · rw [if_neg (by simp [none])]
      exact consistent.record sound bridges id young stamped
  · rw [if_pos (by simp)]
    exact consistent.with_sheet sound same

theorem Consistent.commit (consistent : w.Consistent)
    (rollback : w.sheet.config.autoRollback = true) {id : BatchId} {b : Batch}
    (held : w.sheet.batch? id = some b) {now : Instant}
    (restored : ∀ e, (w.sheet.commit id now).1 = .error e → e.isFatal = false)
    {stamp : Stamp} {recording : Instant} (young : w.history.NoneExpired stamp recording) :
    (w.commit id b.operations now stamp recording).Consistent := by
  have sound := consistent.sound.commit id now
  have settles := Sheet.commit_settles consistent.sound rollback held restored
  rw [Workbench.commit]
  generalize w.sheet.commit id now = outcome at sound settles ⊢
  obtain ⟨reply, sheet⟩ := outcome
  cases reply with
  | error e =>
    rcases settles with ⟨_, answer, _⟩ | ⟨same, _⟩
    · simp at answer
    · exact consistent.with_sheet sound same
  | ok result =>
    refine consistent.take sound ?_ stamp.id young ?_
    · rcases settles with ⟨_, answer, success, between, effect⟩ | ⟨same, failure⟩
      · cases answer
        exact .inl ⟨success, between, fun _ same => .ofBatch same between effect stamp⟩
      · exact .inr ⟨same, failure result rfl⟩
    · exact Action.recordedAt_ofBatch b.operations result stamp

theorem Consistent.executeSingle (consistent : w.Consistent) {op : Operation}
    {begun now : Instant}
    (restored : ∀ e, (w.sheet.executeSingle op begun now).1 = .error e → e.isFatal = false)
    {stamp : Stamp} {recording : Instant} (young : w.history.NoneExpired stamp recording) :
    (w.executeSingle op begun now stamp recording).Consistent := by
  have sound := consistent.sound.executeSingle op begun now
  have settles := Sheet.executeSingle_settles consistent.sound restored
  rw [Workbench.executeSingle]
  generalize w.sheet.executeSingle op begun now = outcome at sound settles ⊢
  obtain ⟨reply, sheet⟩ := outcome
  cases reply with
  | error e =>
    rcases settles with ⟨_, answer, _⟩ | ⟨same, _⟩
    · simp at answer
    · exact consistent.with_sheet sound same
  | ok result =>
    refine consistent.take sound ?_ stamp.id young rfl
    rcases settles with ⟨_, answer, success, between, effect⟩ | ⟨same, failure⟩
    · cases answer
      exact .inl ⟨success, between, fun _ same => .ofOperation same between effect stamp⟩
    · exact .inr ⟨same, failure result rfl⟩

theorem Consistent.newest_done (consistent : w.Consistent) {action : Action}
    {older : List Action} (top : w.history.done = action :: older) :
    ∃ k before after, w.timeline.cursor = k + 1 ∧ w.timeline.entries[k]? = some before ∧
      w.timeline.entries[k + 1]? = some after ∧ Bridges before after action ∧
      w.sheet.store.cells.Same after := by
  obtain ⟨k, cursor, before, after, first, second, bridges⟩ :=
    consistent.follows.done 0 action (by simp [top])
  obtain ⟨current, found, same⟩ := consistent.shows
  obtain rfl : current = after := by
    rw [cursor] at found
    exact Option.some.inj (found.symm.trans second)
  exact ⟨k, before, current, cursor, first, second, bridges, same⟩

theorem Consistent.newest_undone (consistent : w.Consistent) {action : Action}
    {older : List Action} (top : w.history.undone = action :: older) :
    ∃ before after, w.timeline.entries[w.timeline.cursor]? = some before ∧
      w.timeline.entries[w.timeline.cursor + 1]? = some after ∧ Bridges before after action ∧
      w.sheet.store.cells.Same before := by
  obtain ⟨before, after, first, second, bridges⟩ :=
    consistent.follows.undone 0 action (by simp [top])
  obtain ⟨current, found, same⟩ := consistent.shows
  obtain rfl : current = before := Option.some.inj (found.symm.trans first)
  exact ⟨current, after, first, second, bridges, same⟩

theorem Consistent.undo (consistent : w.Consistent)
    (unhindered : w.sheet.store.Unhindered w.undo.sheet.store) : w.undo.Consistent := by
  rcases w.history.undo_cases w.sheet.store with
    ⟨e, t, run, cells⟩ | ⟨action, older, t, top, run, cells⟩
  · simp only [Workbench.undo, run] at unhindered ⊢
    rcases cells with same | ⟨_, refuses⟩
    · exact consistent.with_sheet (consistent.sound.of_batches_eq rfl) same
    · exact absurd unhindered refuses.not_unhindered
  · obtain ⟨k, before, after, cursor, first, _, bridges, same⟩ := consistent.newest_done top
    simp only [Workbench.undo, run]
    refine ⟨consistent.sound.of_batches_eq rfl, ⟨before, ?_, ?_⟩, consistent.follows.undo top _⟩
    · simpa [Timeline.back, cursor] using first
    · rw [cells]
      exact bridges.undone same

theorem Consistent.redo (consistent : w.Consistent)
    (unhindered : w.sheet.store.Unhindered w.redo.sheet.store) : w.redo.Consistent := by
  rcases w.history.redo_cases w.sheet.store with
    ⟨e, t, run, cells⟩ | ⟨action, older, t, top, run, cells⟩
  · simp only [Workbench.redo, run] at unhindered ⊢
    rcases cells with same | ⟨_, refuses⟩
    · exact consistent.with_sheet (consistent.sound.of_batches_eq rfl) same
    · exact absurd unhindered refuses.not_unhindered
  · obtain ⟨before, after, _, second, bridges, same⟩ := consistent.newest_undone top
    simp only [Workbench.redo, run]
    refine ⟨consistent.sound.of_batches_eq rfl, ⟨after, second, ?_⟩, consistent.follows.redo top _⟩
    rw [cells]
    exact bridges.redone same

theorem Reached.consistent (reached : w.Reached) : w.Consistent := by
  induction reached with
  | start reachable config =>
    exact ⟨reachable.sound, ⟨_, rfl, .refl _⟩, fun _ _ none => by simp at none,
      fun _ _ none => by simp at none⟩
  | arm _ same ih => exact ih.with_sheet (ih.sound.of_batches_eq rfl) same
  | quiet _ now quiet ih =>
    exact ih.with_sheet (ih.sound.call now _) (Sheet.call_peeks_of_quiet ih.sound now quiet).unwritten
  | commit _ rollback held restored young ih => exact ih.commit rollback held restored young
  | executeSingle _ restored young ih => exact ih.executeSingle restored young
  | undo _ unhindered ih => exact ih.undo unhindered
  | redo _ unhindered ih => exact ih.redo unhindered

theorem Reached.follows_timeline (reached : w.Reached) :
    w.timeline.Shows w.sheet.store.cells ∧
    (∀ result history store, w.history.undo w.sheet.store = (.ok result, history, store) →
      ∃ k before after, w.timeline.cursor = k + 1 ∧ w.timeline.entries[k]? = some before ∧
        w.timeline.entries[k + 1]? = some after ∧
        result.cellsModified = before.distance after) ∧
    (∀ result history store, w.history.redo w.sheet.store = (.ok result, history, store) →
      ∃ before after, w.timeline.entries[w.timeline.cursor]? = some before ∧
        w.timeline.entries[w.timeline.cursor + 1]? = some after ∧
        result.cellsModified = before.distance after) := by
  have consistent := reached.consistent
  refine ⟨consistent.shows, fun result history store undone => ?_,
    fun result history store redone => ?_⟩
  · rcases w.history.undo_cases w.sheet.store with
      ⟨e, t, run, _⟩ | ⟨action, older, t, top, run, cells⟩
    · simp [run] at undone
    · obtain ⟨k, before, after, cursor, first, second, bridges, same⟩ := consistent.newest_done top
      refine ⟨k, before, after, cursor, first, second, ?_⟩
      rw [run] at undone
      cases undone
      rw [Operation.cellsModified_report, Cells.distance_comm before]
      exact Cells.distance_congr same (bridges.undone same)
  · rcases w.history.redo_cases w.sheet.store with
      ⟨e, t, run, _⟩ | ⟨action, older, t, top, run, cells⟩
    · simp [run] at redone
    · obtain ⟨before, after, first, second, bridges, same⟩ := consistent.newest_undone top
      refine ⟨before, after, first, second, ?_⟩
      rw [run] at redone
      cases redone
      rw [Operation.cellsModified_report]
      exact Cells.distance_congr same (bridges.redone same)

theorem Reached.follows_timeline_after_undo :
    let op : Operation := .overwriteText (.range ⟨0, 0⟩ ⟨0, 1⟩) "x"
    let start : Workbench := ⟨Sheet.opened {} {} op, {}, { entries := [∅] }⟩
    let w := (start.commit ⟨1⟩ [op] 2 ⟨⟨0⟩, 3⟩ 4).undo
    w.timeline.Shows w.sheet.store.cells ∧ (w.history.redo w.sheet.store).1.isOk = true ∧
      ∀ result history store, w.history.redo w.sheet.store = (.ok result, history, store) →
        ∃ before after, w.timeline.entries[0]? = some before ∧
          w.timeline.entries[1]? = some after ∧ result.cellsModified = before.distance after := by
  intro op start w
  have opened : start.Reached := .start (Sheet.opened_reachable _ _ _) {}
  have held : start.sheet.batch? ⟨1⟩ = some _ := rfl
  have committed : (start.commit ⟨1⟩ [op] 2 ⟨⟨0⟩, 3⟩ 4).Reached := by
    refine opened.commit rfl held ?_ ⟨by decide, by simp [start]⟩
    intro e failed
    exact nomatch (show (Except.ok _ : Except BatchError BatchResult) = .error e from failed)
  have reached : w.Reached := by
    refine committed.undo ⟨[⟨.get, ⟨0, 0⟩, false⟩, ⟨.delete, ⟨0, 0⟩, false⟩, ⟨.get, ⟨0, 1⟩, false⟩,
      ⟨.delete, ⟨0, 1⟩, false⟩], by decide +kernel, by simp⟩
  have cursor : w.timeline.cursor = 0 := by decide +kernel
  obtain ⟨shows, _, redone⟩ := reached.follows_timeline
  rw [cursor] at redone
  exact ⟨shows, by decide +kernel, redone⟩

end Workbench

end CellLedger
