import CellLedger.Proofs.Batch.Snapshot

/-!
Captures of one batch, repeated on stores that change in between and mixed with registrations
(`captured_once`). A capture reads what is targeted and not captured yet, row by row; what was
captured is not read again and keeps its value.
-/

set_option autoImplicit false

namespace CellLedger.Batch

variable {b c d : Batch} {s t : Store} {a : Address} {e : StoreError} {cells : List Address}
  {captured taken : SortedMap Address (Option Value)} {contents : Cells}

theorem isAffected_iff : b.isAffected a = true ↔ a ∈ b.owners.keys := by
  rw [SortedMap.mem_keys_iff]
  exact Option.isSome_iff_exists

theorem mem_uncaptured :
    a ∈ b.uncaptured ↔ b.isAffected a = true ∧ b.captured.get? a = none := by
  simp [uncaptured, SortedMap.contains, isAffected_iff]

theorem uncaptured_ascending (b : Batch) : b.uncaptured.Pairwise (· < ·) :=
  b.owners.keys_ascending.filter _

theorem captureCells_ok (run : captureCells cells captured s = (.ok (), taken, t)) :
    taken = captured.insertAll (cells.map fun a => (a, s.cells.get? a)) ∧
      t.cells = s.cells ∧ s.Logs t (cells.map (⟨.get, ·, false⟩)) := by
  rcases captureCells_logs cells captured s with ⟨_, _, _, _, _, _, failed, _⟩ | ⟨u, done, logs⟩
  · simp [run] at failed
  · simp only [run, Prod.mk.injEq] at done
    obtain ⟨_, rfl, rfl⟩ := done
    exact ⟨rfl, logs⟩

-- A failing capture reads a first part of the cells and is refused at the next one.
theorem captureCells_error (run : captureCells cells captured s = (.error e, taken, t)) :
    ∃ before a after u, cells = before ++ a :: after ∧
      captureCells before captured s = (.ok (), taken, u) ∧ u.get a = (.error e, t) := by
  induction cells generalizing captured s with
  | nil => simp [captureCells] at run
  | cons a rest ih =>
    generalize read : s.get a = outcome
    obtain ⟨reply, u⟩ := outcome
    simp only [captureCells, read] at run
    cases reply with
    | error e =>
      cases run
      exact ⟨[], a, rest, s, rfl, rfl, read⟩
    | ok value =>
      obtain ⟨before, d, after, v, split, granted, refused⟩ := ih run
      refine ⟨a :: before, d, after, v, by rw [split]; rfl, ?_, refused⟩
      simp only [captureCells, read, granted]

/-- What is captured in `b` is captured in `c` with the same value. -/
def Keeps (b c : Batch) : Prop := ∀ a v, b.captured.get? a = some v → c.captured.get? a = some v

theorem Keeps.refl (b : Batch) : b.Keeps b := fun _ _ held => held

theorem Keeps.trans (first : b.Keeps c) (second : c.Keeps d) : b.Keeps d :=
  fun a v held => second a v (first a v held)

/-- Of the cells that were not captured exactly these are now, each with its contents. Nothing else
of the batch is altered. -/
structure Adds (b c : Batch) (contents : Cells) (cells : Address → Prop) : Prop where
  unaltered : c = { b with captured := c.captured }
  kept : b.Keeps c
  added : ∀ a, b.captured.get? a = none →
    ∀ v, c.captured.get? a = some v ↔ cells a ∧ v = contents.get? a

theorem adds_insertAll (pending : ∀ a ∈ cells, b.captured.get? a = none) (contents : Cells) :
    b.Adds { b with captured := b.captured.insertAll (cells.map fun a => (a, contents.get? a)) }
      contents (· ∈ cells) where
  unaltered := rfl
  kept a v held := by
    have past : a ∉ cells := fun member => by simp [pending a member] at held
    rw [SortedMap.get?_insertAll_map, if_neg past, held]
  added a free v := by
    rw [SortedMap.get?_insertAll_map]
    by_cases member : a ∈ cells <;> simp [member, free, eq_comm]

theorem Adds.congr {some other : Address → Prop} (adds : b.Adds c contents some)
    (same : ∀ a, b.captured.get? a = none → (some a ↔ other a)) : b.Adds c contents other where
  unaltered := adds.unaltered
  kept := adds.kept
  added a free v := by rw [adds.added a free v, same a free]

/-- Every targeted cell is captured, and the number tells how many of them were not before. -/
structure CapturesAll (b : Batch) (n : Nat) (c : Batch) (s t : Store) : Prop
    extends b.Adds c s.cells (b.isAffected · = true) where
  counted : c.captured.size = b.captured.size + n
  complete : ∀ a, c.isAffected a = true → ∃ v, c.captured.get? a = some v
  readings : s.Logs t (b.uncaptured.map (⟨.get, ·, false⟩))
  unwritten : t.cells = s.cells

/-- The cells before `a` are captured; `a` was not, and the reading of it ends with this error. -/
structure StopsAt (b : Batch) (e : StoreError) (c : Batch) (s t : Store) (a : Address) : Prop
    extends b.Adds c s.cells (fun x => b.isAffected x = true ∧ x < a) where
  pending : b.isAffected a = true ∧ b.captured.get? a = none
  refused : ∃ u, s.Logs u ((b.uncaptured.filter (· < a)).map (⟨.get, ·, false⟩)) ∧
    u.cells = s.cells ∧ u.get a = (.error e, t)
  unwritten : t.cells = s.cells

theorem capturesAll_of_run (run : captureCells b.uncaptured b.captured s = (.ok (), taken, t)) :
    b.CapturesAll b.uncaptured.length { b with captured := taken } s t := by
  obtain ⟨rfl, unwritten, logs⟩ := captureCells_ok run
  have pending : ∀ a ∈ b.uncaptured, b.captured.get? a = none := fun a member =>
    (mem_uncaptured.1 member).2
  have same : ∀ a, b.captured.get? a = none → (a ∈ b.uncaptured ↔ b.isAffected a = true) :=
    fun a free => by simp [mem_uncaptured, free]
  have adds := (adds_insertAll pending s.cells).congr same
  refine { adds with counted := ?_, complete := fun a affected => ?_, readings := logs, unwritten }
  · have listed : (b.uncaptured.map fun a => (a, s.cells.get? a)).map Prod.fst = b.uncaptured := by
      simp [Function.comp_def]
    have distinct : b.uncaptured.Nodup :=
      b.uncaptured_ascending.imp fun below => KeyOrder.apart_iff.1 (.inl below)
    rw [SortedMap.size_insertAll, List.length_map]
    · rwa [listed]
    · rw [listed]
      exact fun a member => SortedMap.get?_eq_none_iff.1 (pending a member)
  · cases held : b.captured.get? a with
    | some v => exact ⟨v, adds.kept a v held⟩
    | none => exact ⟨_, (adds.added a held _).2 ⟨affected, rfl⟩⟩

theorem stopsAt_of_run (run : captureCells b.uncaptured b.captured s = (.error e, taken, t)) :
    ∃ a, b.StopsAt e { b with captured := taken } s t a := by
  obtain ⟨before, a, after, u, split, granted, refused⟩ := captureCells_error run
  obtain ⟨rfl, unwritten, logs⟩ := captureCells_ok granted
  let pending : Selection := ⟨b.uncaptured, b.uncaptured_ascending⟩
  have listed : pending.cells = before ++ a :: after := split
  have earlier : b.uncaptured.filter (· < a) = before := Selection.filter_below listed
  have mem_before {x : Address} : x ∈ before ↔ x ∈ b.uncaptured ∧ x < a :=
    Selection.mem_before_iff listed
  have free : ∀ x ∈ before, b.captured.get? x = none := fun x member =>
    (mem_uncaptured.1 (mem_before.1 member).1).2
  have same : ∀ x, b.captured.get? x = none → (x ∈ before ↔ b.isAffected x = true ∧ x < a) :=
    fun x free => by simp [mem_before, mem_uncaptured, free]
  have adds := (adds_insertAll free s.cells).congr same
  have peeks := u.get_peeks a
  rw [refused] at peeks
  have member : a ∈ b.uncaptured := by simp [split]
  refine ⟨a, { adds with
    pending := mem_uncaptured.1 member, refused := ⟨u, ?_, unwritten, refused⟩
    unwritten := peeks.unwritten.trans unwritten }⟩
  rwa [earlier]

theorem capture_ok {n : Nat} (run : b.capture s = (.ok n, c, t)) : b.CapturesAll n c s t := by
  simp only [capture] at run
  split at run
  · simp at run
  next step =>
    cases run
    exact capturesAll_of_run step

theorem capture_error (run : b.capture s = (.error e, c, t)) : ∃ a, b.StopsAt e c s t a := by
  simp only [capture] at run
  split at run
  next step =>
    cases run
    exact stopsAt_of_run step
  · simp at run

/-- What may happen to a batch. The store of a capture is any, and so are its faults. -/
inductive Step where
  | add (op : Operation) (config : SheetConfig)
  | capture (s : Store)
  | mark (state : BatchState)

/-- A refused registration leaves the batch as it was. -/
def step (b : Batch) : Step → Batch
  | .add op config => (b.add op config).toOption.getD b
  | .capture s => (b.capture s).2.1
  | .mark state => { b with state }

def after : Batch → List Step → Batch
  | b, [] => b
  | b, x :: rest => (b.step x).after rest

def CapturedWithin (b : Batch) : Prop := ∀ a v, b.captured.get? a = some v → b.isAffected a = true

theorem Adds.within {some : Address → Prop} (adds : b.Adds c contents some)
    (inside : ∀ a, some a → b.isAffected a = true) (within : b.CapturedWithin) :
    c.CapturedWithin := by
  intro a v held
  have affected : c.isAffected a = b.isAffected a := by rw [adds.unaltered]; rfl
  rw [affected]
  cases before : b.captured.get? a with
  | some w => exact within a w before
  | none => exact inside a ((adds.added a before v).1 held).1

-- What one step keeps: targeted cells stay targeted, and captured values stay captured.
theorem step_keeps (b : Batch) (x : Step) :
    b.Keeps (b.step x) ∧ (b.CapturedWithin → (b.step x).CapturedWithin) := by
  cases x with
  | add op config =>
    cases accepted : b.add op config with
    | error e =>
      simp only [step, accepted, Except.toOption, Option.getD_none]
      exact ⟨.refl b, fun within => within⟩
    | ok c =>
      obtain ⟨_, _, _, _, rfl⟩ := add_eq_ok accepted
      simp only [step, accepted, Except.toOption, Option.getD_some]
      refine ⟨fun a v held => held, fun within a v held => ?_⟩
      have affected := isAffected_iff.1 (within a v held)
      exact isAffected_iff.2 (SortedMap.mem_keys_insertAll.2 (.inl affected))
  | capture s =>
    simp only [step]
    generalize run : b.capture s = outcome
    obtain ⟨reply, c, t⟩ := outcome
    cases reply with
    | ok n =>
      have all := capture_ok run
      exact ⟨all.kept, all.toAdds.within fun a affected => affected⟩
    | error e =>
      obtain ⟨a, stops⟩ := capture_error run
      exact ⟨stops.kept, stops.toAdds.within fun a affected => affected.1⟩
  | mark state => exact ⟨fun a v held => held, fun within => within⟩

theorem after_keeps (b : Batch) (steps : List Step) :
    b.Keeps (b.after steps) ∧ (b.CapturedWithin → (b.after steps).CapturedWithin) := by
  induction steps generalizing b with
  | nil => exact ⟨.refl b, fun within => within⟩
  | cons x rest ih =>
    obtain ⟨kept, within⟩ := b.step_keeps x
    obtain ⟨keptLater, withinLater⟩ := ih (b.step x)
    exact ⟨kept.trans keptLater, fun start => withinLater (within start)⟩

theorem captured_once (id : BatchId) (now : Instant) (metadata : Metadata) (steps : List Step) :
    let b := Batch.after { id, startedAt := now, metadata } steps
    (∀ a v, b.captured.get? a = some v → b.isAffected a = true) ∧
      (∀ more, b.Keeps (b.after more)) ∧
      (∀ s n c t, b.capture s = (.ok n, c, t) → b.CapturesAll n c s t) ∧
      ∀ s e c t, b.capture s = (.error e, c, t) → ∃ a, b.StopsAt e c s t a := by
  intro b
  have nothing : CapturedWithin { id, startedAt := now, metadata } := fun a v held => by
    simp at held
  exact ⟨(after_keeps _ steps).2 nothing, fun more => (b.after_keeps more).1,
    fun _ _ _ _ => capture_ok, fun _ _ _ _ => capture_error⟩

-- The second reading of the first capture is refused. The capture that follows an addition reads
-- from another store, in which the cell captured first holds something else.
theorem captured_once_resumed :
    let write (cells : Selection) : Step := .add (.overwriteText cells "x") {}
    let first := Store.ofCells (.ofList [(⟨0, 0⟩, .text "a")])
    let refusing := { first with faults := { reads := [2] } }
    let other := Store.ofCells (.ofList [(⟨0, 0⟩, .text "b"), (⟨0, 1⟩, .text "c")])
    let b := Batch.after { id := ⟨1⟩, startedAt := 0 }
      [write (.range ⟨0, 0⟩ ⟨0, 1⟩), .capture refusing, write (.single ⟨1, 0⟩)]
    b.captured.entries = [(⟨0, 0⟩, some (.text "a"))] ∧
      ∃ c t, b.capture other = (.ok 2, c, t) ∧ b.CapturesAll 2 c other t ∧
        c.captured.entries =
          [(⟨0, 0⟩, some (.text "a")), (⟨0, 1⟩, some (.text "c")), (⟨1, 0⟩, none)] := by
  intro write first refusing other b
  have reply : (b.capture other).1 = .ok 2 := by decide +kernel
  have entries : (b.capture other).2.1.captured.entries =
      [(⟨0, 0⟩, some (.text "a")), (⟨0, 1⟩, some (.text "c")), (⟨1, 0⟩, none)] := by decide +kernel
  generalize run : b.capture other = outcome at reply entries
  obtain ⟨_, c, t⟩ := outcome
  cases reply
  have all := (captured_once ⟨1⟩ 0 ∅ _).2.2.1 other 2 c t run
  exact ⟨by decide +kernel, c, t, rfl, all, entries⟩

end CellLedger.Batch
