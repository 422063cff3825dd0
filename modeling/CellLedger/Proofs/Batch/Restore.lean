import CellLedger.Batch.Restore
import CellLedger.Proofs.Store.Access

/-!
Putting contents back, write by write (`restore_exact`). The plan of faults and the number of a
write alone decide whether it is refused, so that it is known beforehand which cells will be and why;
every other cell that is put back holds its contents afterwards. Nothing but the cells captured is
touched (`restore_touches`).
-/

set_option autoImplicit false

namespace CellLedger

theorem FaultPlan.rejectsWrite_spend {p : FaultPlan} {number later : Nat} (after : number < later)
    (a : Address) : (p.spend number).rejectsWrite later a = p.rejectsWrite later a := by
  have other : (p.writes.filter (· ≠ number)).contains later = p.writes.contains later := by
    rw [Bool.eq_iff_iff]
    simp [Nat.ne_of_gt after]
  simp only [rejectsWrite, spend, other]

/-- The write that is to put contents into a cell, numbered as the store counts writes. -/
structure Writing where
  address : Address
  value : Option Value
  number : Nat

namespace Writing

def access (w : Writing) (refused : Bool) : Access :=
  ⟨Store.writeKind w.value, w.address, refused⟩

/-- Why the write is refused if it is. -/
def refusal (w : Writing) : StoreError :=
  .writeRejected w.address ("injected failure on write " ++ toString w.number)

/-- The writes of these entries one after another, the first of which has this number. -/
def sequence : Nat → List (Address × Option Value) → List Writing
  | _, [] => []
  | number, (a, v) :: rest => ⟨a, v, number⟩ :: sequence (number + 1) rest

variable {entries : List (Address × Option Value)} {number : Nat} {w : Writing}

theorem le_number (member : w ∈ sequence number entries) : number ≤ w.number := by
  induction entries generalizing number with
  | nil => simp [sequence] at member
  | cons head rest ih =>
    rcases List.mem_cons.1 member with rfl | member
    · exact Nat.le_refl number
    · exact Nat.le_of_succ_le (ih member)

theorem map_sequence (number : Nat) (entries : List (Address × Option Value)) :
    (sequence number entries).map (fun w => (w.address, w.value)) = entries := by
  induction entries generalizing number with
  | nil => rfl
  | cons head rest ih => simp [sequence, ih]

end Writing

namespace Store

variable (s : Store) (a : Address) (v : Option Value)
  (entries rest : List (Address × Option Value))

/-- The writes that the store is to carry out next if these entries are put back in their order. -/
def upcoming : List Writing := Writing.sequence (s.writes + 1) entries

def rejects (w : Writing) : Bool := s.faults.rejectsWrite w.number w.address

/-- The upcoming writes that the plan of faults refuses. -/
def refusals : List Writing := (s.upcoming entries).filter s.rejects

/-- What the log will show of the upcoming writes. -/
def attempts : List Access := (s.upcoming entries).map fun w => w.access (s.rejects w)

theorem map_upcoming : (s.upcoming entries).map (fun w => (w.address, w.value)) = entries :=
  Writing.map_sequence (s.writes + 1) entries

theorem addresses_upcoming : (s.upcoming entries).map (·.address) = entries.map Prod.fst := by
  conv_rhs => rw [← s.map_upcoming entries]
  simp

variable {s entries a v} in
theorem mem_entries_iff :
    (a, v) ∈ entries ↔ ∃ w ∈ s.upcoming entries, w.address = a ∧ w.value = v := by
  conv_lhs => rw [← s.map_upcoming entries]
  simp

theorem upcoming_cons :
    s.upcoming ((a, v) :: rest) = ⟨a, v, s.writes + 1⟩ :: (s.put a v).2.upcoming rest := by
  simp only [upcoming, Writing.sequence, (s.put_counts a v).1]

-- A write spends its own number only, and those that follow have others.
theorem rejects_put {w : Writing} (member : w ∈ (s.put a v).2.upcoming rest) :
    (s.put a v).2.rejects w = s.rejects w := by
  obtain ⟨writes, faults, _⟩ := s.put_counts a v
  have later : s.writes + 1 < w.number := by
    have number := Writing.le_number member
    omega
  rw [rejects, faults, FaultPlan.rejectsWrite_spend later, rejects]

theorem refusals_cons :
    s.refusals ((a, v) :: rest) =
      if s.rejects ⟨a, v, s.writes + 1⟩ then ⟨a, v, s.writes + 1⟩ :: (s.put a v).2.refusals rest
      else (s.put a v).2.refusals rest := by
  have later : ((s.put a v).2.upcoming rest).filter s.rejects = (s.put a v).2.refusals rest :=
    List.filter_congr fun _ member => (s.rejects_put a v rest member).symm
  rw [refusals, s.upcoming_cons, List.filter_cons, later]

theorem attempts_cons :
    s.attempts ((a, v) :: rest) =
      Writing.access ⟨a, v, s.writes + 1⟩ (s.rejects ⟨a, v, s.writes + 1⟩) ::
        (s.put a v).2.attempts rest := by
  have later : ((s.put a v).2.upcoming rest).map (fun w => w.access (s.rejects w)) =
      (s.put a v).2.attempts rest :=
    List.map_congr_left fun w member => congrArg w.access (s.rejects_put a v rest member).symm
  rw [attempts, s.upcoming_cons, List.map_cons, later]

-- The verdict on the next write is in the answer, in the contents and in the log.
theorem put_verdict :
    let w : Writing := ⟨a, v, s.writes + 1⟩
    (s.rejects w = true ∧ ∃ t, s.put a v = (.error w.refusal, t) ∧ t.cells = s.cells ∧
        s.Logs t [w.access true]) ∨
      s.rejects w = false ∧ ∃ t, s.put a v = (.ok (), t) ∧ t.cells = s.cells.assign a v ∧
        s.Logs t [w.access false] := by
  intro w
  have answer : (s.put a v).1 = if s.rejects w then .error w.refusal else .ok () := by
    simp only [put, rejects, Writing.refusal, w]
    split <;> simp_all
  rcases s.put_logs a v with ⟨e, t, put, cells, logs⟩ | ⟨t, put, cells, logs⟩
  · rw [put] at answer
    cases rejected : s.rejects w with
    | true =>
      obtain rfl : e = w.refusal := by simpa [rejected] using answer
      exact .inl ⟨rfl, t, put, cells, logs⟩
    | false => simp [rejected] at answer
  · rw [put] at answer
    cases rejected : s.rejects w with
    | true => simp [rejected] at answer
    | false => exact .inr ⟨rfl, t, put, cells, logs⟩

/-- One write was attempted for each entry in this order. A cell whose write was accepted holds its
contents, and any other is as it was. -/
structure Writes (t : Store) : Prop where
  attempts : s.Logs t (s.attempts entries)
  accepted : ∀ w ∈ s.upcoming entries, s.rejects w = false → t.cells.get? w.address = w.value
  kept : ∀ a, (∀ w ∈ s.upcoming entries, w.address = a → s.rejects w = true) →
    t.cells.get? a = s.cells.get? a

end Store

/-- Putting the entries back came to this: the writes, and the refusals as they are reported. -/
structure Attempted (entries : List (Address × Option Value)) (s : Store) (r : Restoration)
    (t : Store) : Prop where
  writes : s.Writes entries t
  refused : r.refused = (s.refusals entries).map (·.address)
  reason : r.reason = (s.refusals entries).head?.map (·.refusal.message)
  counted : r.restored + r.refused.length = entries.length

section Cons

variable {a : Address} {v : Option Value} {rest : List (Address × Option Value)} {s t u : Store}

-- A cell that the first write concerns is left alone by those that follow.
theorem Store.Writes.cons (fresh : a ∉ rest.map Prod.fst) {x : Access}
    (put : (s.put a v).2 = t) (one : s.Logs t [x])
    (first : Writing.access ⟨a, v, s.writes + 1⟩ (s.rejects ⟨a, v, s.writes + 1⟩) = x)
    (here : t.cells.get? a = if s.rejects ⟨a, v, s.writes + 1⟩ then s.cells.get? a else v)
    (later : t.Writes rest u) : s.Writes ((a, v) :: rest) u := by
  have apart : ∀ w ∈ t.upcoming rest, w.address ≠ a := by
    rintro w member rfl
    refine fresh ?_
    rw [← t.addresses_upcoming rest]
    exact List.mem_map_of_mem member
  have upcoming := s.upcoming_cons a v rest
  have same {w : Writing} (member : w ∈ t.upcoming rest) : t.rejects w = s.rejects w := by
    subst put
    exact s.rejects_put a v rest member
  have attempts := s.attempts_cons a v rest
  rw [put] at upcoming attempts
  have untouched : u.cells.get? a = t.cells.get? a :=
    later.kept a fun w member concerns => absurd concerns (apart w member)
  refine ⟨?_, ?_, ?_⟩
  · rw [attempts, first]
    exact one.trans later.attempts
  · rw [upcoming]
    intro w member accepted
    rcases List.mem_cons.1 member with rfl | member
    · rw [untouched, here, accepted]
      rfl
    · exact later.accepted w member ((same member).trans accepted)
  · rw [upcoming]
    intro b kept
    have below := later.kept b fun w member concerns =>
      (same member).trans (kept w (List.mem_cons_of_mem _ member) concerns)
    by_cases this : a = b
    · subst this
      rw [untouched, here, kept _ (List.mem_cons_self ..) rfl]
      rfl
    · rw [below, one.frame b fun y member => ?_]
      obtain rfl := List.mem_singleton.1 member
      rw [← first]
      exact this

end Cons

theorem restoreCells_attempted {entries : List (Address × Option Value)}
    (distinct : (entries.map Prod.fst).Nodup) (s : Store) :
    Attempted entries s (restoreCells entries s).1 (restoreCells entries s).2 := by
  induction entries generalizing s with
  | nil =>
    exact ⟨⟨.refl s, by simp [Store.upcoming, Writing.sequence], fun _ _ => rfl⟩, rfl, rfl, rfl⟩
  | cons head rest ih =>
    obtain ⟨a, v⟩ := head
    obtain ⟨fresh, distinctRest⟩ := List.nodup_cons.1 distinct
    have refusals := s.refusals_cons a v rest
    rcases s.put_verdict a v with ⟨rejected, t, put, cells, one⟩ | ⟨accepted, t, put, cells, one⟩
    · have later := ih distinctRest t
      have here : t.cells.get? a =
          if s.rejects ⟨a, v, s.writes + 1⟩ then s.cells.get? a else v := by
        simp [rejected, cells]
      have writes := later.writes.cons fresh (by rw [put]) one (by rw [rejected]) here
      rw [put, rejected, if_pos rfl] at refusals
      simp only [restoreCells, put]
      refine ⟨writes, ?_, ?_, ?_⟩
      · rw [refusals, List.map_cons, ← later.refused]
        rfl
      · rw [refusals]
        rfl
      · have counted := later.counted
        simp only [Restoration.refuse, List.length_cons]
        omega
    · have later := ih distinctRest t
      have here : t.cells.get? a =
          if s.rejects ⟨a, v, s.writes + 1⟩ then s.cells.get? a else v := by
        simp [accepted, cells, SortedMap.get?_assign]
      have writes := later.writes.cons fresh (by rw [put]) one (by rw [accepted]) here
      rw [put, accepted, if_neg (by simp)] at refusals
      simp only [restoreCells, put]
      refine ⟨writes, ?_, ?_, ?_⟩
      · rw [refusals, later.refused]
      · rw [refusals, later.reason]
      · have counted := later.counted
        simp only [List.length_cons]
        omega

section Distinct

variable {entries : List (Address × Option Value)} (s : Store)

-- No cell is written twice, so that the cell tells the write.
theorem Store.mem_refused_iff (distinct : (entries.map Prod.fst).Nodup) {w : Writing}
    (member : w ∈ s.upcoming entries) :
    w.address ∈ (s.refusals entries).map (·.address) ↔ s.rejects w = true := by
  constructor
  · intro refused
    obtain ⟨x, listed, same⟩ := List.mem_map.1 refused
    obtain ⟨memberToo, rejected⟩ := List.mem_filter.1 listed
    rw [← s.addresses_upcoming entries] at distinct
    obtain rfl : x = w := List.inj_on_of_nodup_map distinct memberToo member same
    exact rejected
  · intro rejected
    exact List.mem_map_of_mem (List.mem_filter.2 ⟨member, rejected⟩)

theorem Store.attempts_eq (distinct : (entries.map Prod.fst).Nodup) {refused : List Address}
    (named : refused = (s.refusals entries).map (·.address)) :
    s.attempts entries =
      entries.map fun e => ⟨Store.writeKind e.2, e.1, decide (e.1 ∈ refused)⟩ := by
  conv_rhs => rw [← s.map_upcoming entries, List.map_map]
  refine List.map_congr_left fun w member => ?_
  have verdict : s.rejects w = decide (w.address ∈ refused) := by
    rw [Bool.eq_iff_iff, named, decide_eq_true_iff, s.mem_refused_iff distinct member]
  simp [Writing.access, verdict]

end Distinct

/-- What comes of putting the entries back in this order: one write is attempted for each, a cell
whose write is accepted holds its contents, any other is as it was, and the answer names the cells
that are refused, row by row, and says why the first of them is. -/
structure PutBack (id : BatchId) (entries : List (Address × Option Value)) (s : Store)
    (answer : Except BatchError Nat) (t : Store) : Prop where
  attempts : s.Logs t (s.attempts entries)
  accepted : ∀ w ∈ s.upcoming entries, s.rejects w = false → t.cells.get? w.address = w.value
  kept : ∀ a, (∀ w ∈ s.upcoming entries, w.address = a → s.rejects w = true) →
    t.cells.get? a = s.cells.get? a
  ok : answer = .ok entries.length ↔ s.refusals entries = []
  failed : ∀ first later, s.refusals entries = first :: later →
    answer = .error (.rollbackFailed id (first.address :: later.map (·.address))
      first.refusal.message)
  ascending : ((s.refusals entries).map (·.address)).Pairwise (· < ·)

section Restore

variable (id : BatchId) (captured : SortedMap Address (Option Value)) (s : Store)

theorem refused_sublist :
    ((s.refusals captured.entries).map (·.address)).Sublist captured.keys := by
  rw [SortedMap.keys, ← s.addresses_upcoming captured.entries]
  exact List.filter_sublist.map _

theorem restore_putBack :
    PutBack id captured.entries s (restore id captured s).1 (restore id captured s).2 := by
  have attempted := restoreCells_attempted captured.keys_nodup s
  generalize attempt : restoreCells captured.entries s = outcome at attempted
  obtain ⟨⟨restored, refused, reason⟩, t⟩ := outcome
  obtain ⟨⟨attempts, accepted, kept⟩, named, first, counted⟩ := attempted
  have left : (restore id captured s).2 = t := by
    cases reason <;> simp only [restore, attempt]
  have failed : ∀ w later, s.refusals captured.entries = w :: later → (restore id captured s).1 =
      .error (.rollbackFailed id (w.address :: later.map (·.address)) w.refusal.message) := by
    intro w later refusals
    simp only [refusals] at named first
    subst named first
    simp only [restore, attempt]
    rfl
  have ok : (restore id captured s).1 = .ok captured.entries.length ↔
      s.refusals captured.entries = [] := by
    cases refusals : s.refusals captured.entries with
    | cons w later => simp [failed w later refusals]
    | nil =>
      simp only [refusals] at named first
      subst named first
      have all : restored = captured.entries.length := by simpa using counted
      simp [restore, attempt, all]
  rw [left]
  exact ⟨attempts, accepted, kept, ok, failed,
    captured.keys_ascending.sublist (refused_sublist captured s)⟩

/-- One write is attempted for every captured cell, and the answer tells which were refused. -/
theorem restore_attempts :
    ∃ refused, s.Logs (restore id captured s).2 (captured.entries.map fun e =>
        ⟨Store.writeKind e.2, e.1, decide (e.1 ∈ refused)⟩) ∧
      refused.Sublist captured.keys ∧
      (∀ a, (restore id captured s).2.cells.get? a =
        if a ∈ refused then s.cells.get? a else (captured.get? a).getD (s.cells.get? a)) ∧
      (((restore id captured s).1 = .ok captured.size ∧ refused = []) ∨
        ∃ reason, (restore id captured s).1 = .error (.rollbackFailed id refused reason) ∧
          refused ≠ []) := by
  obtain ⟨attempts, accepted, kept, ok, failed, _⟩ := restore_putBack id captured s
  have verdict {w : Writing} := s.mem_refused_iff (w := w) captured.keys_nodup
  rw [s.attempts_eq captured.keys_nodup rfl] at attempts
  refine ⟨_, attempts, refused_sublist captured s, fun a => ?_, ?_⟩
  · split
    · next refused => exact kept a fun w member same => (verdict member).1 (same ▸ refused)
    · next unrefused =>
      cases held : captured.get? a with
      | none =>
        -- No write concerns a cell that was not captured.
        refine kept a fun w member same => ?_
        have listed := SortedMap.get?_eq_some_iff.2 (Store.mem_entries_iff.2 ⟨w, member, same, rfl⟩)
        simp [held] at listed
      | some v =>
        obtain ⟨w, member, rfl, rfl⟩ := Store.mem_entries_iff.1 (SortedMap.get?_eq_some_iff.1 held)
        exact accepted w member (Bool.eq_false_iff.2 fun h => unrefused ((verdict member).2 h))
  · cases refusals : s.refusals captured.entries with
    | nil => exact .inl ⟨ok.2 refusals, rfl⟩
    | cons first later => exact .inr ⟨_, failed first later refusals, by simp⟩

theorem restore_touches : s.Touches (restore id captured s).2 (· ∈ captured.keys) := by
  obtain ⟨_, logs, _⟩ := restore_attempts id captured s
  refine ⟨_, logs, fun x member => ?_⟩
  obtain ⟨e, listed, rfl⟩ := List.mem_map.1 member
  exact List.mem_map_of_mem listed

theorem restore_cases :
    (∃ refused reason t, restore id captured s = (.error (.rollbackFailed id refused reason), t) ∧
        refused.Sublist captured.keys ∧ s.Touches t (· ∈ captured.keys) ∧
        ∀ a, t.cells.get? a =
          if a ∈ refused then s.cells.get? a else (captured.get? a).getD (s.cells.get? a)) ∨
      ∃ t, restore id captured s = (.ok captured.size, t) ∧ s.Touches t (· ∈ captured.keys) ∧
        ∀ a, t.cells.get? a = (captured.get? a).getD (s.cells.get? a) := by
  obtain ⟨refused, _, sublist, cells, answer⟩ := restore_attempts id captured s
  have touches := restore_touches id captured s
  generalize restore id captured s = outcome at touches cells answer ⊢
  obtain ⟨reply, t⟩ := outcome
  rcases answer with ⟨rfl, rfl⟩ | ⟨reason, rfl, _⟩
  · exact .inr ⟨t, rfl, touches, by simpa using cells⟩
  · exact .inl ⟨refused, reason, t, rfl, sublist, touches, cells⟩

end Restore

theorem restore_exact (id : BatchId) {pairs : List (Address × Option Value)}
    (distinct : (pairs.map Prod.fst).Nodup) (s : Store) :
    ∃ entries, entries.Perm pairs ∧ SortedMap.Ascending entries ∧
      PutBack id entries s (restore id (.ofList pairs) s).1 (restore id (.ofList pairs) s).2 :=
  ⟨_, SortedMap.entries_ofList_perm distinct, (SortedMap.ofList pairs).ascending,
    restore_putBack id (.ofList pairs) s⟩

-- The second write is refused by its number and the third by its cell, which is the first listed.
theorem restore_exact_two_refused :
    let pairs : List (Address × Option Value) :=
      [(⟨1, 0⟩, some (.text "b")), (⟨0, 0⟩, none), (⟨0, 1⟩, some (.text "a"))]
    let s : Store :=
      { cells := .ofList [(⟨0, 0⟩, .text "x"), (⟨0, 1⟩, .text "x")]
        faults := { writes := [2], cells := [⟨1, 0⟩] } }
    (pairs.map Prod.fst).Nodup ∧
      (∃ entries, entries.Perm pairs ∧ SortedMap.Ascending entries ∧
        PutBack ⟨1⟩ entries s (restore ⟨1⟩ (.ofList pairs) s).1
          (restore ⟨1⟩ (.ofList pairs) s).2) ∧
      (restore ⟨1⟩ (.ofList pairs) s).1 = .error (.rollbackFailed ⟨1⟩ [⟨0, 1⟩, ⟨1, 0⟩]
        (StoreError.writeRejected ⟨0, 1⟩ "injected failure on write 2").message) ∧
      (restore ⟨1⟩ (.ofList pairs) s).2.cells.keys = [⟨0, 1⟩] := by
  intro pairs s
  have distinct : (pairs.map Prod.fst).Nodup := by decide
  have answer : (restore ⟨1⟩ (.ofList pairs) s).1 = .error (.rollbackFailed ⟨1⟩ [⟨0, 1⟩, ⟨1, 0⟩]
      (StoreError.writeRejected ⟨0, 1⟩ "injected failure on write 2").message) := by
    decide +kernel
  exact ⟨distinct, restore_exact ⟨1⟩ distinct s, answer, by decide +kernel⟩

end CellLedger
