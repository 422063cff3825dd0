import CellLedger.Proofs.SortedMap.Lookup
import CellLedger.Store

/-!
What one access does to a store: `get_logs` and `put_logs`. `Logs` says which accesses lead from one
state of a store to another; a cell that none of them addresses holds what it held.
-/

set_option autoImplicit false

namespace CellLedger

namespace Store

/-- Exactly these accesses lead from `s` to `t`. -/
structure Logs (s t : Store) (log : List Access) : Prop where
  trace : t.trace.toList = s.trace.toList ++ log
  frame : ∀ a, (∀ x ∈ log, x.address ≠ a) → t.cells.get? a = s.cells.get? a
  healthy : s.Healthy → t.Healthy ∧ ∀ x ∈ log, x.refused = false

theorem Logs.refl (s : Store) : s.Logs s [] where
  trace := by simp
  frame _ _ := rfl
  healthy plan := ⟨plan, by simp⟩

theorem Logs.trans {s t u : Store} {log more : List Access} (first : s.Logs t log)
    (second : t.Logs u more) : s.Logs u (log ++ more) where
  trace := by simp [second.trace, first.trace]
  frame a apart := by
    rw [second.frame a fun x member => apart x (List.mem_append_right _ member),
      first.frame a fun x member => apart x (List.mem_append_left _ member)]
  healthy plan := by
    obtain ⟨middle, unrefused⟩ := first.healthy plan
    obtain ⟨last, unrefusedMore⟩ := second.healthy middle
    refine ⟨last, fun x member => ?_⟩
    rcases List.mem_append.1 member with member | member
    · exact unrefused x member
    · exact unrefusedMore x member

theorem readFault?_of_healthy {s : Store} (plan : s.Healthy) (number : Nat) :
    s.faults.readFault? number = none := by
  have none : s.faults = {} := plan
  simp [FaultPlan.readFault?, none]

/-- Only cells with the property were accessed on the way from `s` to `t`. -/
def Touches (s t : Store) (cells : Address → Prop) : Prop :=
  ∃ log, s.Logs t log ∧ ∀ x ∈ log, cells x.address

/-- Only cells with the property were accessed, and one of the accesses was refused. -/
def Refuses (s t : Store) (cells : Address → Prop) : Prop :=
  ∃ log, s.Logs t log ∧ (∀ x ∈ log, cells x.address) ∧ ∃ x ∈ log, x.refused = true

/-- The kind of access that writes these contents. -/
def writeKind (v : Option Value) : AccessKind := if v.isSome then .set else .delete

theorem get_logs (s : Store) (a : Address) :
    (∃ e t, s.get a = (.error e, t) ∧ t.cells = s.cells ∧ s.Logs t [⟨.get, a, true⟩]) ∨
      ∃ t, s.get a = (.ok (s.cells.get? a), t) ∧ t.cells = s.cells ∧
        s.Logs t [⟨.get, a, false⟩] := by
  cases fault : s.faults.readFault? (s.reads + 1) with
  | some reason =>
    refine .inl ⟨.readFailed a reason, { s with reads := s.reads + 1 }.log .get a true,
      by simp only [get, fault], rfl, by simp [log], fun _ _ => rfl, fun plan => ?_⟩
    simp [readFault?_of_healthy plan] at fault
  | none =>
    refine .inr ⟨{ s with reads := s.reads + 1 }.log .get a false,
      by simp only [get, fault], rfl, ?_⟩
    exact ⟨by simp [log], fun _ _ => rfl, fun plan => ⟨plan, by simp⟩⟩

theorem put_logs (s : Store) (a : Address) (v : Option Value) :
    (∃ e t, s.put a v = (.error e, t) ∧ t.cells = s.cells ∧
        s.Logs t [⟨writeKind v, a, true⟩]) ∨
      ∃ t, s.put a v = (.ok (), t) ∧ t.cells = s.cells.assign a v ∧
        s.Logs t [⟨writeKind v, a, false⟩] := by
  cases fault : s.faults.rejectsWrite (s.writes + 1) a with
  | true =>
    have refused : s.put a v =
        (.error (.writeRejected a ("injected failure on write " ++ toString (s.writes + 1))),
          (s.put a v).2) := by
      simp [put, fault]
    refine .inl ⟨_, _, refused, by simp [put, fault, log], by simp [put, fault, log, writeKind],
      fun _ _ => by simp [put, fault, log], fun plan => ?_⟩
    have none : s.faults = {} := plan
    simp [FaultPlan.rejectsWrite, none] at fault
  | false =>
    -- The write is logged and counted, and alters this cell only.
    have accepted : s.put a v = (.ok (), (s.put a v).2) := by simp [put, fault]
    refine .inr ⟨_, accepted, by simp [put, fault, log], by simp [put, fault, log, writeKind],
      fun b apart => ?_, fun plan => ⟨(put_of_healthy plan a v).2.2, by simp⟩⟩
    have other : a ≠ b := apart ⟨writeKind v, a, false⟩ (by simp)
    simp [put, fault, log, SortedMap.get?_assign, other]

theorem get_counts (s : Store) (a : Address) :
    (s.get a).2.reads = s.reads + 1 ∧ (s.get a).2.faults = s.faults ∧
      (s.get a).2.writes = s.writes := by
  simp only [get]
  split <;> exact ⟨rfl, rfl, rfl⟩

theorem put_counts (s : Store) (a : Address) (v : Option Value) :
    (s.put a v).2.writes = s.writes + 1 ∧ (s.put a v).2.faults = s.faults.spend (s.writes + 1) ∧
      (s.put a v).2.reads = s.reads := by
  simp only [put]
  split <;> exact ⟨rfl, rfl, rfl⟩

theorem Logs.touches_one {s t : Store} {x : Access} (logs : s.Logs t [x]) :
    s.Touches t (· = x.address) := ⟨[x], logs, by simp⟩

theorem Logs.refuses_one {s t : Store} {x : Access} (logs : s.Logs t [x])
    (refused : x.refused = true) : s.Refuses t (· = x.address) :=
  ⟨[x], logs, by simp, x, by simp, refused⟩

theorem get_cases (s : Store) (a : Address) :
    (∃ e t, s.get a = (.error e, t) ∧ t.cells = s.cells ∧ s.Refuses t (· = a)) ∨
      ∃ t, s.get a = (.ok (s.cells.get? a), t) ∧ t.cells = s.cells ∧ s.Touches t (· = a) := by
  rcases s.get_logs a with ⟨e, t, read, cells, logs⟩ | ⟨t, read, cells, logs⟩
  · exact .inl ⟨e, t, read, cells, logs.refuses_one rfl⟩
  · exact .inr ⟨t, read, cells, logs.touches_one⟩

theorem put_cases (s : Store) (a : Address) (v : Option Value) :
    (∃ e t, s.put a v = (.error e, t) ∧ t.cells = s.cells ∧ s.Refuses t (· = a)) ∨
      ∃ t, s.put a v = (.ok (), t) ∧ t.cells = s.cells.assign a v ∧ s.Touches t (· = a) := by
  rcases s.put_logs a v with ⟨e, t, written, cells, logs⟩ | ⟨t, written, cells, logs⟩
  · exact .inl ⟨e, t, written, cells, logs.refuses_one rfl⟩
  · exact .inr ⟨t, written, cells, logs.touches_one⟩

variable {s t u : Store} {cells wider : Address → Prop}

theorem Touches.refl (s : Store) (cells : Address → Prop) : s.Touches s cells :=
  ⟨[], .refl s, by simp⟩

theorem Touches.trans (first : s.Touches t cells) (second : t.Touches u cells) :
    s.Touches u cells := by
  obtain ⟨log, logs, inside⟩ := first
  obtain ⟨more, logsMore, insideMore⟩ := second
  refine ⟨log ++ more, logs.trans logsMore, fun x member => ?_⟩
  rcases List.mem_append.1 member with member | member
  · exact inside x member
  · exact insideMore x member

theorem Touches.mono (touches : s.Touches t cells) (within : ∀ a, cells a → wider a) :
    s.Touches t wider := by
  obtain ⟨log, logs, inside⟩ := touches
  exact ⟨log, logs, fun x member => within _ (inside x member)⟩

theorem Touches.frame (touches : s.Touches t cells) {a : Address} (outside : ¬ cells a) :
    t.cells.get? a = s.cells.get? a := by
  obtain ⟨log, logs, inside⟩ := touches
  refine logs.frame a fun x member same => outside ?_
  exact same ▸ inside x member

theorem Touches.healthy (touches : s.Touches t cells) (plan : s.Healthy) : t.Healthy := by
  obtain ⟨log, logs, _⟩ := touches
  exact (logs.healthy plan).1

theorem Refuses.touches (refuses : s.Refuses t cells) : s.Touches t cells := by
  obtain ⟨log, logs, inside, _⟩ := refuses
  exact ⟨log, logs, inside⟩

-- No access on the way was refused; every trace that leads from `s` to `t` says the same.
def Unhindered (s t : Store) : Prop :=
  ∃ log, t.trace.toList = s.trace.toList ++ log ∧ ∀ x ∈ log, x.refused = false

theorem Refuses.not_unhindered (refuses : s.Refuses t cells) : ¬ s.Unhindered t := by
  obtain ⟨log, logs, _, x, member, refused⟩ := refuses
  rintro ⟨other, trace, unrefused⟩
  have same : log = other := List.append_cancel_left (logs.trace.symm.trans trace)
  simp [unrefused x (same ▸ member)] at refused

theorem Touches.unhindered (touches : s.Touches t cells) (plan : s.Healthy) : s.Unhindered t := by
  obtain ⟨log, logs, _⟩ := touches
  exact ⟨log, logs.trace, (logs.healthy plan).2⟩

-- If no access on the whole way was refused, none was on either part of it.
theorem Unhindered.split (clear : s.Unhindered u) (first : s.Touches t cells)
    (second : t.Touches u wider) : s.Unhindered t ∧ t.Unhindered u := by
  obtain ⟨whole, trace, unrefused⟩ := clear
  obtain ⟨log, logs, _⟩ := first
  obtain ⟨more, logsMore, _⟩ := second
  have same : log ++ more = whole :=
    List.append_cancel_left ((logs.trans logsMore).trace.symm.trans trace)
  subst same
  exact ⟨⟨log, logs.trace, fun x member => unrefused x (List.mem_append_left _ member)⟩,
    more, logsMore.trace, fun x member => unrefused x (List.mem_append_right _ member)⟩

theorem Refuses.mono (refuses : s.Refuses t cells) (within : ∀ a, cells a → wider a) :
    s.Refuses t wider := by
  obtain ⟨log, logs, inside, refused⟩ := refuses
  exact ⟨log, logs, fun x member => within _ (inside x member), refused⟩

theorem Touches.refuses (first : s.Touches t cells) (second : t.Refuses u cells) :
    s.Refuses u cells := by
  obtain ⟨log, logs, inside⟩ := first
  obtain ⟨more, logsMore, insideMore, x, member, refused⟩ := second
  refine ⟨log ++ more, logs.trans logsMore, fun y memberOfBoth => ?_,
    x, List.mem_append_right _ member, refused⟩
  rcases List.mem_append.1 memberOfBoth with memberOfLog | memberOfMore
  · exact inside y memberOfLog
  · exact insideMore y memberOfMore

/-- These cells may have been read, and nothing was written. -/
structure Peeks (s t : Store) (cells : Address → Prop) : Prop where
  unwritten : t.cells = s.cells
  touches : s.Touches t cells

theorem Peeks.refl (s : Store) (cells : Address → Prop) : s.Peeks s cells := ⟨rfl, .refl s cells⟩

theorem Peeks.trans (first : s.Peeks t cells) (second : t.Peeks u cells) : s.Peeks u cells :=
  ⟨second.unwritten.trans first.unwritten, first.touches.trans second.touches⟩

theorem Peeks.mono (peeks : s.Peeks t cells) (within : ∀ a, cells a → wider a) : s.Peeks t wider :=
  ⟨peeks.unwritten, peeks.touches.mono within⟩

theorem get_peeks (s : Store) (a : Address) : s.Peeks (s.get a).2 (· = a) := by
  rcases s.get_cases a with ⟨e, t, read, cells, refuses⟩ | ⟨t, read, cells, touches⟩
  · rw [read]
    exact ⟨cells, refuses.touches⟩
  · rw [read]
    exact ⟨cells, touches⟩

end Store

end CellLedger
