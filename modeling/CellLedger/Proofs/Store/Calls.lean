import CellLedger.Proofs.Store.Access

/-!
Accesses, arming of faults and healing as calls that a store gets in any order. Whatever is refused,
the contents are those of a plain store that got the accepted writes alone (`after_cells`).
-/

set_option autoImplicit false

namespace CellLedger

/-- The contents after these writes, none of which is refused. -/
def Cells.written (cells : Cells) (writes : List (Address × Option Value)) : Cells :=
  writes.foldl (fun cells w => cells.assign w.1 w.2) cells

theorem Cells.written_append (cells : Cells) (writes more : List (Address × Option Value)) :
    cells.written (writes ++ more) = (cells.written writes).written more := List.foldl_append

namespace Store

inductive Call where
  | get (a : Address)
  | set (a : Address) (v : Value)
  | delete (a : Address)
  | arm (f : Fault)
  | heal
  deriving DecidableEq, Repr

namespace Call

/-- The cell that is to be written and what it is to hold. -/
def write? : Call → Option (Address × Option Value)
  | .set a v => some (a, some v)
  | .delete a => some (a, none)
  | _ => none

def isWrite (c : Call) : Bool := c.write?.isSome

def isRead : Call → Bool
  | .get _ => true
  | _ => false

theorem kind_of_write? {c : Call} {w : Address × Option Value} (bears : c.write? = some w) :
    c.isWrite = true ∧ c.isRead = false ∧ c ≠ .heal ∧ ∀ f, c ≠ .arm f := by
  cases c <;> simp_all [isWrite, write?, isRead]

end Call

def call (s : Store) : Call → Except StoreError (Option Value) × Store
  | .get a => s.get a
  | .set a v => ((s.set a v).1.map fun _ => none, (s.set a v).2)
  | .delete a => ((s.delete a).1.map fun _ => none, (s.delete a).2)
  | .arm f => (.ok none, s.arm f)
  | .heal => (.ok none, s.heal)

def after (s : Store) (calls : List Call) : Store := calls.foldl (fun t c => (t.call c).2) s

/-- The writes among these calls that the store accepts, in their order. -/
def accepted : Store → List Call → List (Address × Option Value)
  | _, [] => []
  | s, c :: rest =>
    (if (s.call c).1.isOk then c.write?.toList else []) ++ accepted (s.call c).2 rest

def writesIn (past : List Call) : Nat := past.countP Call.isWrite

def readsIn (past : List Call) : Nat := past.countP Call.isRead

variable {s : Store} {past before other : List Call} {c d : Call} {a : Address} {v : Option Value}

@[simp] theorem writesIn_append (past more : List Call) :
    writesIn (past ++ more) = writesIn past + writesIn more := List.countP_append

@[simp] theorem readsIn_append (past more : List Call) :
    readsIn (past ++ more) = readsIn past + readsIn more := List.countP_append

@[simp] theorem writesIn_singleton (c : Call) : writesIn [c] = if c.isWrite then 1 else 0 := by
  simp [writesIn, List.countP_cons]

@[simp] theorem readsIn_singleton (c : Call) : readsIn [c] = if c.isRead then 1 else 0 := by
  simp [readsIn, List.countP_cons]

theorem writesIn_lt (isWrite : c.isWrite = true)
    (earlier : before ++ [c] <+: other) : writesIn before < writesIn other := by
  have counted : writesIn (before ++ [c]) = writesIn before + 1 := by simp [isWrite]
  have grows : writesIn (before ++ [c]) ≤ writesIn other := earlier.sublist.countP_le
  omega

-- Two writes of one run bear different numbers.
theorem writesIn_injective (isWrite : c.isWrite = true)
    (isWriteToo : d.isWrite = true) (first : before ++ [c] <+: past)
    (second : other ++ [d] <+: past) (same : writesIn before = writesIn other) :
    before = other := by
  have part : before <+: past := (List.prefix_append before [c]).trans first
  have partToo : other <+: past := (List.prefix_append other [d]).trans second
  rcases Nat.lt_trichotomy before.length other.length with shorter | equal | longer
  · have inside : before ++ [c] <+: other :=
      List.prefix_of_prefix_length_le first partToo (by rw [List.length_append]; exact shorter)
    exact absurd same (Nat.ne_of_lt (writesIn_lt isWrite inside))
  · exact (List.prefix_of_prefix_length_le part partToo (Nat.le_of_eq equal)).eq_of_length equal
  · have inside : other ++ [d] <+: before :=
      List.prefix_of_prefix_length_le second part (by rw [List.length_append]; exact longer)
    exact absurd same.symm (Nat.ne_of_lt (writesIn_lt isWriteToo inside))

theorem after_append (s : Store) (calls more : List Call) :
    s.after (calls ++ more) = (s.after calls).after more := List.foldl_append

theorem isOk_get (s : Store) (a : Address) :
    (s.get a).1.isOk = (s.faults.readFault? (s.reads + 1)).isNone := by
  simp only [get]
  cases s.faults.readFault? (s.reads + 1) <;> rfl

theorem isOk_put (s : Store) (a : Address) (v : Option Value) :
    (s.put a v).1.isOk = !s.faults.rejectsWrite (s.writes + 1) a := by
  simp only [put]
  cases s.faults.rejectsWrite (s.writes + 1) a <;> rfl

theorem call_of_write? (bears : c.write? = some (a, v)) :
    (s.call c).1.isOk = (s.put a v).1.isOk ∧ (s.call c).2 = (s.put a v).2 := by
  have same (r : Except StoreError Unit) :
      (r.map fun _ => (none : Option Value)).isOk = r.isOk := by
    cases r <;> rfl
  cases c with
  | get b => cases bears
  | arm f => cases bears
  | heal => cases bears
  | set b w =>
    cases bears
    exact ⟨same _, rfl⟩
  | delete b =>
    cases bears
    exact ⟨same _, rfl⟩

theorem call_of_not_write (reads : c.write? = none) : (s.call c).2.cells = s.cells := by
  cases c with
  | get a => exact (s.get_peeks a).unwritten
  | set a v => cases reads
  | delete a => cases reads
  | arm f => cases f <;> rfl
  | heal => rfl

/-- A write alters the contents as it would those of a plain store if it is accepted, and not at all
otherwise. -/
theorem call_cells (s : Store) (c : Call) :
    (s.call c).2.cells = s.cells.written (if (s.call c).1.isOk then c.write?.toList else []) := by
  cases bears : c.write? with
  | none => simp [call_of_not_write bears, Cells.written]
  | some w =>
    obtain ⟨ok, left⟩ := call_of_write? (s := s) bears
    rw [ok, left]
    rcases s.put_cases w.1 w.2 with ⟨e, t, run, cells, _⟩ | ⟨t, run, cells, _⟩ <;>
      rw [run, cells] <;> rfl

theorem after_cells (s : Store) (calls : List Call) :
    (s.after calls).cells = s.cells.written (s.accepted calls) := by
  induction calls generalizing s with
  | nil => rfl
  | cons c rest ih =>
    rw [accepted, Cells.written_append, ← call_cells]
    exact ih (s.call c).2

theorem call_disarms (s : Store) (isWrite : c.isWrite = true) :
    s.writes + 1 ∉ (s.call c).2.faults.writes := by
  obtain ⟨⟨a, v⟩, bears⟩ := Option.isSome_iff_exists.1 isWrite
  rw [(call_of_write? bears).2, (s.put_counts a v).2.1]
  simp [FaultPlan.spend]

theorem get_answers (accepted : (s.get a).1.isOk = true) :
    (s.get a).1 = .ok (s.cells.get? a) := by
  rcases s.get_cases a with ⟨e, t, read, _⟩ | ⟨t, read, _⟩
  · rw [read] at accepted
    cases accepted
  · rw [read]

end Store

end CellLedger
