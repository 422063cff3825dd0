import CellLedger.Proofs.Sheet.CarryOut
import CellLedger.Session

/-!
The sheets that calls lead to. Every batch they track is sound: `Reachable.sound`.
-/

set_option autoImplicit false

namespace CellLedger.Sheet

/-- Every tracked batch is sound and filed under its own number. -/
def Sound (sheet : Sheet) : Prop := ∀ id b, sheet.batch? id = some b → b.id = id ∧ b.Sound

/-- The calls come in any order, at any instants, and the store may be exchanged between them. -/
inductive Reachable : Sheet → Prop
  | start (store : Store) (config : SheetConfig) : Reachable { store, config }
  | call {sheet : Sheet} (reached : Reachable sheet) (now : Instant) (c : BatchCall) :
      Reachable (sheet.call now c).2
  | executeSingle {sheet : Sheet} (reached : Reachable sheet) (op : Operation)
      (begun now : Instant) : Reachable (sheet.executeSingle op begun now).2
  | exchange {sheet : Sheet} (reached : Reachable sheet) (store : Store) :
      Reachable { sheet with store }

section Tracking

variable {sheet : Sheet} {b : Batch} {id : BatchId}

theorem batch?_putBatch (sheet : Sheet) (b : Batch) (id : BatchId) :
    (sheet.putBatch b).batch? id = if b.id = id then some b else sheet.batch? id :=
  SortedMap.get?_insert sheet.batches b.id id b

theorem findActive_eq_ok :
    sheet.findActive id = .ok b ↔ sheet.batch? id = some b ∧ b.isActive = true := by
  cases held : sheet.batch? id with
  | none => simp [findActive, find, held, bind, Except.bind]
  | some c =>
    by_cases active : c.isActive = true
    · simp [findActive, find, held, bind, Except.bind, Batch.ensureActive, active]
      rintro rfl
      exact active
    · simp [findActive, find, held, bind, Except.bind, Batch.ensureActive, active]
      rintro rfl
      simpa using active

theorem closed_of_refused {e : BatchError} (refused : sheet.findActive id = .error e)
    (held : sheet.batch? id = some b) : b.isActive = false := by
  by_contra isOpen
  simp [findActive_eq_ok.2 ⟨held, by simpa using isOpen⟩] at refused

theorem Sound.of_batches_eq {other : Sheet} (sound : sheet.Sound)
    (batches : other.batches = sheet.batches) : other.Sound := by
  intro id b found
  rw [batch?, batches] at found
  exact sound id b found

theorem Sound.putBatch (sound : sheet.Sound) (batch : b.Sound) : (sheet.putBatch b).Sound := by
  intro id c found
  rw [batch?_putBatch] at found
  by_cases same : b.id = id
  · rw [if_pos same] at found
    cases found
    exact ⟨same, batch⟩
  · rw [if_neg same] at found
    exact sound id c found

theorem Sound.filter (sound : sheet.Sound) (keep : BatchId → Batch → Bool) :
    Sound { sheet with batches := sheet.batches.filter keep } := by
  intro id b found
  rw [batch?, SortedMap.get?_filter, Option.filter_eq_some_iff] at found
  exact sound id b found.1

theorem Sound.begin (sound : sheet.Sound) (metadata : Metadata) (now : Instant) :
    (sheet.begin metadata now).2.Sound := by
  have empty : Batch.Sound { id := ⟨sheet.nextId⟩, startedAt := now, metadata } :=
    ⟨fun a i => by simp [Batch.owner?], fun _ => rfl⟩
  exact (sound.putBatch empty).of_batches_eq rfl

-- A registration is refused or accepted; only the latter alters the sheet.
theorem add_cases (sheet : Sheet) (id : BatchId) (op : Operation) :
    (∃ e, sheet.add id op = (.error e, sheet)) ∨
      ∃ b c, sheet.batch? id = some b ∧ b.add op sheet.config = .ok c ∧
        sheet.add id op = (.ok (), sheet.putBatch c) := by
  cases held : sheet.batch? id with
  | none => exact .inl ⟨.notFound id, by simp only [Sheet.add, find, held]⟩
  | some b =>
    cases accepted : b.add op sheet.config with
    | error e => exact .inl ⟨e, by simp only [Sheet.add, find, held, accepted]⟩
    | ok c => exact .inr ⟨b, c, rfl, accepted, by simp only [Sheet.add, find, held, accepted]⟩

theorem Sound.add (sound : sheet.Sound) (id : BatchId) (op : Operation) :
    (sheet.add id op).2.Sound := by
  rcases sheet.add_cases id op with ⟨_, run⟩ | ⟨b, c, held, accepted, run⟩
  · rw [run]
    exact sound
  · rw [run]
    have batch := (sound id b held).2
    refine sound.putBatch ⟨batch.owned.add accepted, fun _ => ?_⟩
    obtain ⟨active, _, _, _, rfl⟩ := Batch.add_eq_ok accepted
    exact batch.fresh active

theorem Sound.cancel (sound : sheet.Sound) (id : BatchId) : (sheet.cancel id).2.Sound := by
  cases found : sheet.findActive id with
  | error e =>
    simp only [Sheet.cancel, found]
    exact sound
  | ok b =>
    simp only [Sheet.cancel, found]
    have batch := (sound id b (findActive_eq_ok.1 found).1).2
    have closed : Batch.Sound { b with state := .cancelled } := batch.closed b.captured (by simp)
    exact (sound.putBatch closed).of_batches_eq rfl

theorem Sound.preview (sound : sheet.Sound) (id : BatchId) (limit : Option Nat) (now : Instant) :
    (sheet.preview id limit now).2.Sound := by
  refine sound.of_batches_eq ?_
  cases found : sheet.findActive id with
  | error e => simp only [Sheet.preview, found]
  | ok b =>
    simp only [Sheet.preview, found]
    split <;> rfl

theorem Sound.putBack (sound : sheet.Sound) (batch : b.Sound) : (sheet.putBack b).2.Sound := by
  have closed : Batch.Sound { b with state := .rolledBack } := batch.closed b.captured (by simp)
  simp only [Sheet.putBack]
  split <;> exact (sound.putBatch closed).of_batches_eq rfl

theorem Sound.rollBack (sound : sheet.Sound) (id : BatchId) : (sheet.rollBack id).2.Sound := by
  cases found : sheet.findActive id with
  | error e =>
    simp only [Sheet.rollBack, found]
    exact sound
  | ok b =>
    simp only [Sheet.rollBack, found]
    exact sound.putBack (sound id b (findActive_eq_ok.1 found).1).2

-- A commit is refused, rejected or carried out; only the last alters the sheet.
theorem commit_cases (sheet : Sheet) (id : BatchId) (now : Instant) :
    (∃ e, sheet.findActive id = .error e ∧ sheet.commit id now = (.error e, sheet)) ∨
      ∃ b, sheet.batch? id = some b ∧ b.isActive = true ∧
        ((sheet.objections b now ≠ [] ∧
            sheet.commit id now = (.ok (.rejected b (sheet.objections b now)), sheet)) ∨
          (sheet.objections b now = [] ∧ sheet.commit id now = sheet.carryOut b)) := by
  cases found : sheet.findActive id with
  | error e => exact .inl ⟨e, rfl, by simp only [commit, found]⟩
  | ok b =>
    obtain ⟨held, active⟩ := findActive_eq_ok.1 found
    refine .inr ⟨b, held, active, ?_⟩
    cases objections : sheet.objections b now with
    | nil => exact .inr ⟨rfl, by simp only [commit, found, objections]⟩
    | cons first rest => exact .inl ⟨by simp, by simp only [commit, found, objections]⟩

theorem commit_of_open (held : sheet.batch? id = some b) (active : b.isActive = true)
    (now : Instant) :
    (sheet.objections b now ≠ [] ∧
        sheet.commit id now = (.ok (.rejected b (sheet.objections b now)), sheet)) ∨
      (sheet.objections b now = [] ∧ sheet.commit id now = sheet.carryOut b) := by
  have found := findActive_eq_ok.2 ⟨held, active⟩
  rcases sheet.commit_cases id now with ⟨e, refused, _⟩ | ⟨c, heldToo, _, run⟩
  · simp [refused] at found
  · obtain rfl : b = c := by simpa [held] using heldToo
    exact run

theorem Sound.carryOut (sound : sheet.Sound) (batch : b.Sound) (active : b.isActive = true) :
    (sheet.carryOut b).2.Sound := by
  have closed (captured : SortedMap Address (Option Value)) (state : BatchState) (store : Store)
      (stats : Stats) (left : state ≠ .active) : (sheet.close b captured state store stats).Sound :=
    (sound.putBatch (batch.closed captured left)).of_batches_eq rfl
  have carriedOut := sheet.carryOut_carriedOut batch active
  generalize sheet.carryOut b = outcome at carriedOut ⊢
  cases carriedOut <;> exact closed _ _ _ _ (by simp)

theorem Sound.commit (sound : sheet.Sound) (id : BatchId) (now : Instant) :
    (sheet.commit id now).2.Sound := by
  rcases sheet.commit_cases id now with
    ⟨e, _, run⟩ | ⟨b, held, active, ⟨_, run⟩ | ⟨_, run⟩⟩
  · rw [run]
    exact sound
  · rw [run]
    exact sound
  · rw [run]
    exact sound.carryOut (sound id b held).2 active

-- One operation is carried out in a batch of its own, if it is accepted.
theorem executeSingle_cases (sheet : Sheet) (op : Operation) (begun now : Instant) :
    (∃ e t, (sheet.begin ∅ begun).2.add ⟨sheet.nextId⟩ op = (.error e, t) ∧
        sheet.executeSingle op begun now = (.error e, t.forget ⟨sheet.nextId⟩)) ∨
      ∃ t, (sheet.begin ∅ begun).2.add ⟨sheet.nextId⟩ op = (.ok (), t) ∧
        sheet.executeSingle op begun now =
          ((t.commit ⟨sheet.nextId⟩ now).1.map (singleResult op.kind),
            (t.commit ⟨sheet.nextId⟩ now).2.forget ⟨sheet.nextId⟩) := by
  have number : (sheet.begin ∅ begun).1 = ⟨sheet.nextId⟩ := rfl
  generalize added : (sheet.begin ∅ begun).2.add ⟨sheet.nextId⟩ op = outcome
  obtain ⟨reply, t⟩ := outcome
  cases reply with
  | error e => exact .inl ⟨e, t, rfl, by simp only [executeSingle, number, added]⟩
  | ok _ =>
    refine .inr ⟨t, rfl, ?_⟩
    simp only [executeSingle, number, added]
    generalize t.commit ⟨sheet.nextId⟩ now = answer
    obtain ⟨reply, u⟩ := answer
    cases reply <;> rfl

theorem Sound.executeSingle (sound : sheet.Sound) (op : Operation) (begun now : Instant) :
    (sheet.executeSingle op begun now).2.Sound := by
  have added := (sound.begin ∅ begun).add ⟨sheet.nextId⟩ op
  rcases sheet.executeSingle_cases op begun now with ⟨e, t, step, run⟩ | ⟨t, step, run⟩
  · rw [run]
    rw [step] at added
    exact added.filter _
  · rw [run]
    rw [step] at added
    exact (added.commit ⟨sheet.nextId⟩ now).filter _

theorem Sound.call (sound : sheet.Sound) (now : Instant) (c : BatchCall) :
    (sheet.call now c).2.Sound := by
  cases c with
  | begin metadata => exact sound.begin metadata now
  | add id op => exact sound.add id op
  | validate id => exact sound
  | preview id limit => exact sound.preview id limit now
  | commit id => exact sound.commit id now
  | rollBack id => exact sound.rollBack id
  | cancel id => exact sound.cancel id
  | sweep => exact sound.filter _
  | executeSingle op => exact sound.executeSingle op now (now + 1)
  | status id => exact sound
  | active => exact sound

end Tracking

theorem Reachable.sound {sheet : Sheet} (reachable : sheet.Reachable) : sheet.Sound := by
  induction reachable with
  | start store config => exact fun id b found => by simp [batch?] at found
  | call _ now c ih => exact ih.call now c
  | executeSingle _ op begun now ih => exact ih.executeSingle op begun now
  | exchange _ store ih => exact ih.of_batches_eq rfl

-- A sheet with one open batch, of one operation.
def opened (store : Store) (config : SheetConfig) (op : Operation) : Sheet :=
  ((call { store, config } 0 (.begin ∅)).2.call 1 (.add ⟨1⟩ op)).2

theorem opened_reachable (store : Store) (config : SheetConfig) (op : Operation) :
    (opened store config op).Reachable :=
  .call (.call (.start store config) 0 _) 1 _

end CellLedger.Sheet
