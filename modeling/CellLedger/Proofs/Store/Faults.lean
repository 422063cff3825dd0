import CellLedger.Proofs.Store.Calls
import Mathlib.Data.List.Induction

/-!
Which accesses a store refuses, told from the calls that it got before and not from its plan of
faults (`Tracks`). Otherwise the store is a plain one (`refines_plain`).
-/

set_option autoImplicit false

namespace CellLedger.Store

/-- Which write the fault is to refuse if it is armed after so many writes. -/
def Fault.write? (writes : Nat) : Fault → Option Nat
  | .onWrite n => some n
  | .onNextWrite => some (writes + 1)
  | _ => none

/-- A fault was armed and not healed since, of which this holds together with the calls before it
was armed and those since. -/
def Armed (past : List Call) (P : List Call → Fault → List Call → Prop) : Prop :=
  ∃ before f since, past = before ++ .arm f :: since ∧ .heal ∉ since ∧ P before f since

def Stands (past : List Call) (f : Fault) : Prop := Armed past fun _ g _ => g = f

/-- The number was armed, and no write since then was the one that bears it. -/
def NumberArmed (past : List Call) (n : Nat) : Prop :=
  Armed past fun before f since => f.write? (writesIn before) = some n ∧
    (n ≤ writesIn before ∨ writesIn before + writesIn since < n)

/-- The number was the last to be armed as the one from which on all writes are refused. -/
def StartArmed (past : List Call) (n : Nat) : Prop :=
  Armed past fun _ f since => f = .writesFrom n ∧ ∀ m, .arm (.writesFrom m) ∉ since

/-- The next write to the cell is refused for its number, for a start that is not later or for the
cell. -/
def BarsWrite (past : List Call) (a : Address) : Prop :=
  NumberArmed past (writesIn past + 1) ∨ (∃ n ≤ writesIn past + 1, StartArmed past n) ∨
    Stands past (.atCell a)

def BarsRead (past : List Call) : Prop :=
  Stands past .allReads ∨ Stands past (.onRead (readsIn past + 1))

variable {s : Store} {past before since : List Call} {c : Call} {f : Fault} {n : Nat}

section History

theorem writesIn_of_split (split : past = before ++ .arm f :: since) :
    writesIn past = writesIn before + writesIn since := by
  subst split
  simp [writesIn, Call.isWrite, Call.write?]

variable {P Q : List Call → Fault → List Call → Prop}

theorem armed_congr
    (same : ∀ before f since, past = before ++ .arm f :: since →
      (P before f since ↔ Q before f since)) :
    Armed past P ↔ Armed past Q := by
  constructor
  · rintro ⟨before, f, since, split, unhealed, holds⟩
    exact ⟨before, f, since, split, unhealed, (same before f since split).1 holds⟩
  · rintro ⟨before, f, since, split, unhealed, holds⟩
    exact ⟨before, f, since, split, unhealed, (same before f since split).2 holds⟩

theorem armed_and {p : Prop} : (Armed past fun before f since => P before f since ∧ p) ↔
    Armed past P ∧ p := by
  constructor
  · rintro ⟨before, f, since, split, unhealed, holds, side⟩
    exact ⟨⟨before, f, since, split, unhealed, holds⟩, side⟩
  · rintro ⟨⟨before, f, since, split, unhealed, holds⟩, side⟩
    exact ⟨before, f, since, split, unhealed, holds, side⟩

-- The last call arms the fault, or lets one stand that was armed before.
theorem armed_snoc : Armed (past ++ [c]) P ↔ (∃ f, c = .arm f ∧ P past f []) ∨
    (c ≠ .heal ∧ Armed past fun before f since => P before f (since ++ [c])) := by
  constructor
  · rintro ⟨before, f, since, split, unhealed, holds⟩
    rcases List.eq_nil_or_concat since with rfl | ⟨earlier, last, rfl⟩
    · obtain ⟨rfl, same⟩ := List.append_inj' split rfl
      exact .inl ⟨f, List.head_eq_of_cons_eq same, holds⟩
    · rw [List.concat_eq_append] at split unhealed holds
      rw [← List.cons_append, ← List.append_assoc] at split
      obtain ⟨rfl, same⟩ := List.append_inj' split rfl
      obtain rfl := List.head_eq_of_cons_eq same
      simp only [List.mem_append, List.mem_singleton, not_or] at unhealed
      exact .inr ⟨Ne.symm unhealed.2, before, f, earlier, rfl, unhealed.1, holds⟩
  · rintro (⟨f, rfl, holds⟩ | ⟨notHeal, before, f, since, rfl, unhealed, holds⟩)
    · exact ⟨past, f, [], rfl, List.not_mem_nil, holds⟩
    · refine ⟨before, f, since ++ [c], by simp, ?_, holds⟩
      simp [unhealed, Ne.symm notHeal]

theorem stands_snoc : Stands (past ++ [c]) f ↔ c = .arm f ∨ (c ≠ .heal ∧ Stands past f) := by
  simp only [Stands, armed_snoc, exists_eq_right]

theorem startArmed_snoc : StartArmed (past ++ [c]) n ↔ c = .arm (.writesFrom n) ∨
    (c ≠ .heal ∧ StartArmed past n ∧ ∀ m, c ≠ .arm (.writesFrom m)) := by
  have keeps (since : List Call) : (∀ m, Call.arm (.writesFrom m) ∉ since ++ [c]) ↔
      (∀ m, .arm (.writesFrom m) ∉ since) ∧ ∀ m, c ≠ .arm (.writesFrom m) := by
    simp only [List.mem_append, List.mem_singleton, not_or, forall_and, ne_comm]
  simp only [StartArmed, armed_snoc, keeps, ← and_assoc, armed_and]
  simp

theorem numberArmed_snoc : NumberArmed (past ++ [c]) n ↔
    (∃ f, c = .arm f ∧ f.write? (writesIn past) = some n) ∨
      (c ≠ .heal ∧ NumberArmed past n ∧ (c.isWrite = true → n ≠ writesIn past + 1)) := by
  have bears (before : List Call) (f : Fault) (since : List Call)
      (split : past = before ++ .arm f :: since) :
      (f.write? (writesIn before) = some n ∧ (n ≤ writesIn before ∨
        writesIn before + writesIn (since ++ [c]) < n)) ↔
      (f.write? (writesIn before) = some n ∧ (n ≤ writesIn before ∨
        writesIn before + writesIn since < n)) ∧ (c.isWrite = true → n ≠ writesIn past + 1) := by
    rw [writesIn_append, writesIn_singleton, writesIn_of_split split, and_assoc]
    refine and_congr_right fun _ => ?_
    cases c.isWrite with
    | false => simp
    | true =>
      simp
      omega
  rw [NumberArmed, armed_snoc, armed_congr bears, armed_and]
  -- A number that was armed just now was borne before or is still to come.
  have unborne : n ≤ writesIn past ∨ writesIn past + writesIn [] < n :=
    (Nat.lt_or_ge (writesIn past) n).symm
  simp only [unborne, and_true, NumberArmed]

theorem not_armed_of_healed (healed : past = before ++ .heal :: since)
    (unarmed : ∀ f, .arm f ∉ since) : ¬ Armed past P := by
  rintro ⟨earlier, f, later, armed, unhealed, _⟩
  have first : .heal :: since <:+ past := ⟨before, healed.symm⟩
  have second : .arm f :: later <:+ past := ⟨earlier, armed.symm⟩
  -- Of the two calls the later one comes after the other, where none of its kind is.
  rcases List.suffix_or_suffix_of_suffix first second with inside | inside
  · rcases List.suffix_cons_iff.1 inside with same | inside
    · simp at same
    · exact unhealed (inside.subset List.mem_cons_self)
  · rcases List.suffix_cons_iff.1 inside with same | inside
    · simp at same
    · exact unarmed f (inside.subset List.mem_cons_self)

end History

/-- The counts and the plan of faults are those that the past calls make. -/
structure Tracks (past : List Call) (s : Store) : Prop where
  writes : s.writes = writesIn past
  reads : s.reads = readsIn past
  numbers : ∀ n, n ∈ s.faults.writes ↔ NumberArmed past n
  start : ∀ n, s.faults.writesFrom = some n ↔ StartArmed past n
  cells : ∀ a, a ∈ s.faults.cells ↔ Stands past (.atCell a)
  allReads : s.faults.allReads = true ↔ Stands past .allReads
  readNumbers : ∀ n, n ∈ s.faults.reads ↔ Stands past (.onRead n)

namespace Tracks

theorem initial (contents : Cells) : Tracks [] (.ofCells contents) where
  writes := rfl
  reads := rfl
  numbers n := by simp [ofCells, NumberArmed, Armed]
  start n := by simp [ofCells, StartArmed, Armed]
  cells a := by simp [ofCells, Stands, Armed]
  allReads := by simp [ofCells, Stands, Armed]
  readNumbers n := by simp [ofCells, Stands, Armed]

variable (tracks : Tracks past s)

include tracks

theorem read (a : Address) : Tracks (past ++ [.get a]) (s.get a).2 := by
  obtain ⟨reads, faults, writes⟩ := s.get_counts a
  constructor
  · simp [writes, tracks.writes, Call.isWrite, Call.write?]
  · simp [reads, tracks.reads, Call.isRead]
  · simp [faults, tracks.numbers, numberArmed_snoc, Call.isWrite, Call.write?]
  · simp [faults, tracks.start, startArmed_snoc]
  · simp [faults, tracks.cells, stands_snoc]
  · simp [faults, tracks.allReads, stands_snoc]
  · simp [faults, tracks.readNumbers, stands_snoc]

theorem write {a : Address} {v : Option Value} (bears : c.write? = some (a, v)) :
    Tracks (past ++ [c]) (s.put a v).2 := by
  obtain ⟨writes, faults, reads⟩ := s.put_counts a v
  obtain ⟨isWrite, isRead, unhealed, unarmed⟩ := Call.kind_of_write? bears
  constructor
  · simp [writes, tracks.writes, isWrite]
  · simp [reads, tracks.reads, isRead]
  -- The number of this write is disarmed, whether or not it was armed.
  · simp [faults, FaultPlan.spend, tracks.numbers, tracks.writes, numberArmed_snoc, isWrite,
      unhealed, unarmed]
  · simp [faults, FaultPlan.spend, tracks.start, startArmed_snoc, unhealed, unarmed]
  · simp [faults, FaultPlan.spend, tracks.cells, stands_snoc, unhealed, unarmed]
  · simp [faults, FaultPlan.spend, tracks.allReads, stands_snoc, unhealed, unarmed]
  · simp [faults, FaultPlan.spend, tracks.readNumbers, stands_snoc, unhealed, unarmed]

theorem arm (f : Fault) : Tracks (past ++ [.arm f]) (s.arm f) := by
  constructor
  · cases f <;> simp [Store.arm, tracks.writes, Call.isWrite, Call.write?]
  · cases f <;> simp [Store.arm, tracks.reads, Call.isRead]
  · cases f <;> simp [Store.arm, tracks.numbers, tracks.writes, numberArmed_snoc, Call.isWrite,
      Call.write?, Fault.write?, eq_comm]
  · cases f <;> simp [Store.arm, tracks.start, startArmed_snoc]
  · cases f <;> simp [Store.arm, tracks.cells, stands_snoc, eq_comm]
  · cases f <;> simp [Store.arm, tracks.allReads, stands_snoc]
  · cases f <;> simp [Store.arm, tracks.readNumbers, stands_snoc, eq_comm]

theorem heal : Tracks (past ++ [.heal]) s.heal := by
  constructor
  · simp [Store.heal, tracks.writes, Call.isWrite, Call.write?]
  · simp [Store.heal, tracks.reads, Call.isRead]
  · simp [Store.heal, numberArmed_snoc]
  · simp [Store.heal, startArmed_snoc]
  · simp [Store.heal, stands_snoc]
  · simp [Store.heal, stands_snoc]
  · simp [Store.heal, stands_snoc]

theorem step (c : Call) : Tracks (past ++ [c]) (s.call c).2 := by
  cases c with
  | get a => exact tracks.read a
  | set a v => exact tracks.write rfl
  | delete a => exact tracks.write rfl
  | arm f => exact tracks.arm f
  | heal => exact tracks.heal

theorem rejectsWrite_iff (a : Address) :
    s.faults.rejectsWrite (s.writes + 1) a = true ↔ BarsWrite past a := by
  have start : s.faults.writesFrom.any (· ≤ writesIn past + 1) = true ↔
      ∃ n ≤ writesIn past + 1, StartArmed past n := by
    simp [Option.any_eq_true, tracks.start, and_comm]
  rw [BarsWrite, ← tracks.numbers, ← tracks.cells, ← start, tracks.writes]
  simp only [FaultPlan.rejectsWrite, Bool.or_eq_true, List.contains_iff_mem, or_assoc]

theorem readFault?_iff : (s.faults.readFault? (s.reads + 1)).isSome = true ↔ BarsRead past := by
  rw [BarsRead, ← tracks.allReads, ← tracks.readNumbers, tracks.reads]
  cases all : s.faults.allReads <;> simp [FaultPlan.readFault?, all]

theorem write_refused_iff {a : Address} {v : Option Value} (bears : c.write? = some (a, v)) :
    (s.call c).1.isOk = false ↔ BarsWrite past a := by
  rw [(call_of_write? bears).1, isOk_put, ← tracks.rejectsWrite_iff, Bool.not_eq_false']

theorem read_refused_iff (a : Address) : (s.get a).1.isOk = false ↔ BarsRead past := by
  rw [isOk_get, ← tracks.readFault?_iff, ← Option.not_isSome, Bool.not_eq_false']

theorem accepts_of_healed (healed : past = before ++ .heal :: since)
    (unarmed : ∀ f, .arm f ∉ since) (c : Call) : (s.call c).1.isOk = true := by
  rw [← Bool.not_eq_false]
  intro refused
  cases bears : c.write? with
  | some w =>
    obtain number | ⟨n, _, start⟩ | cell := (tracks.write_refused_iff bears).1 refused
    · exact not_armed_of_healed healed unarmed number
    · exact not_armed_of_healed healed unarmed start
    · exact not_armed_of_healed healed unarmed cell
  | none =>
    cases c with
    | get a =>
      obtain all | number := (tracks.read_refused_iff a).1 refused
      · exact not_armed_of_healed healed unarmed all
      · exact not_armed_of_healed healed unarmed number
    | set a v => cases bears
    | delete a => cases bears
    | arm f => cases refused
    | heal => cases refused

end Tracks

theorem after_tracks (contents : Cells) (past : List Call) :
    Tracks past ((ofCells contents).after past) := by
  induction past using List.reverseRecOn with
  | nil => exact .initial contents
  | append_singleton past c ih =>
    rw [after_append]
    exact ih.step c

/-- After these calls the next one is a write that is refused and whose number, this one, is
armed. -/
structure Strikes (start : Store) (n : Nat) (before : List Call) (c : Call) : Prop where
  isWrite : c.isWrite = true
  number : (start.after before).writes + 1 = n
  armed : n ∈ (start.after before).faults.writes
  refused : ((start.after before).call c).1.isOk = false

/-- The store `s` that these calls leave is a plain one but for the accesses it refuses, and which
it refuses is known from the calls. -/
structure RefinesPlain (start : Store) (past : List Call) (s : Store) : Prop where
  contents : s.cells = start.cells.written (start.accepted past)
  answered : ∀ a, (s.get a).1.isOk = true → (s.get a).1 = .ok (s.cells.get? a)
  unchanged : ∀ c, (s.call c).1.isOk = false → (s.call c).2.cells = s.cells
  writes : s.writes = writesIn past
  reads : s.reads = readsIn past
  writesRefused : ∀ c a v, c.write? = some (a, v) →
    ((s.call c).1.isOk = false ↔ BarsWrite past a)
  readsRefused : ∀ a, (s.get a).1.isOk = false ↔ BarsRead past
  numbers : ∀ n, n ∈ s.faults.writes ↔ NumberArmed past n
  strikesOnce : ∀ n before c other d, before ++ [c] <+: past → other ++ [d] <+: past →
    start.Strikes n before c → start.Strikes n other d → before = other
  disarmed : ∀ c, c.isWrite = true → s.writes + 1 ∉ (s.call c).2.faults.writes
  healed : ∀ before since c, past = before ++ .heal :: since → (∀ f, .arm f ∉ since) →
    (s.call c).1.isOk = true

theorem refines_plain (contents : Cells) (past : List Call) :
    let start := ofCells contents
    start.RefinesPlain past (start.after past) := by
  intro start
  have tracks (calls : List Call) : Tracks calls (start.after calls) := after_tracks contents calls
  exact {
    contents := after_cells start past
    answered := fun a accepted => get_answers accepted
    unchanged := fun c refused => by
      rw [call_cells, refused]
      rfl
    writes := (tracks past).writes
    reads := (tracks past).reads
    writesRefused := fun c a v bears => (tracks past).write_refused_iff bears
    readsRefused := (tracks past).read_refused_iff
    numbers := (tracks past).numbers
    strikesOnce := fun n before c other d first second strikes strikesToo => by
      refine writesIn_injective strikes.isWrite strikesToo.isWrite first second ?_
      rw [← (tracks before).writes, ← (tracks other).writes]
      exact Nat.succ.inj (strikes.number.trans strikesToo.number.symm)
    disarmed := fun c isWrite => call_disarms _ isWrite
    healed := fun _ _ c healed unarmed => (tracks past).accepts_of_healed healed unarmed c }

-- The first write is refused for its number and for its cell. Its number is spent all the same, so
-- that the second is accepted; the cell is refused again until the store is healed.
theorem refines_plain_overlapping :
    let contents : Cells := .ofList [(⟨0, 0⟩, .text "old")]
    let start := ofCells contents
    let arms : List Call := [.arm .onNextWrite, .arm (.atCell ⟨0, 0⟩), .arm (.onWrite 9)]
    let past := arms ++ [.set ⟨0, 0⟩ (.text "new"), .set ⟨0, 1⟩ (.text "new"), .delete ⟨0, 0⟩]
    let s := start.after past
    start.Strikes 1 arms (.set ⟨0, 0⟩ (.text "new")) ∧
      s.cells = contents.written [(⟨0, 1⟩, some (.text "new"))] ∧ s.writes = 3 ∧
      NumberArmed past 9 ∧ ¬ NumberArmed past 1 ∧
      BarsWrite past ⟨0, 0⟩ ∧ ¬ BarsWrite past ⟨0, 1⟩ ∧
      ((start.after (past ++ [.heal])).call (.delete ⟨0, 0⟩)).1.isOk = true := by
  intro contents start arms past s
  have refines := refines_plain contents past
  refine ⟨⟨rfl, rfl, by decide +kernel, by decide +kernel⟩, ?_, by decide +kernel,
    (refines.numbers 9).1 (by decide +kernel), fun armed => ?_,
    (refines.writesRefused (.delete ⟨0, 0⟩) _ _ rfl).1 (by decide +kernel), fun bars => ?_, ?_⟩
  · have accepted : start.accepted past = [(⟨0, 1⟩, some (.text "new"))] := by decide +kernel
    exact refines.contents.trans (congrArg contents.written accepted)
  · exact absurd ((refines.numbers 1).2 armed) (by decide +kernel)
  · exact absurd ((refines.writesRefused (.delete ⟨0, 1⟩) _ _ rfl).2 bars) (by decide +kernel)
  · have healed : start.RefinesPlain (past ++ [.heal]) (start.after (past ++ [.heal])) :=
      refines_plain contents (past ++ [.heal])
    exact healed.healed past [] (.delete ⟨0, 0⟩) rfl (by simp)

end CellLedger.Store
