import CellLedger.Store.Error
import CellLedger.Value

/-!
The store of cell contents. Every access is numbered and logged, and a plan of faults says which
accesses are refused; a refused access leaves the contents as they were. A write to a store whose
plan is empty is one to a plain map (`put_of_healthy`).
-/

set_option autoImplicit false

namespace CellLedger

/-- What the cells hold; an address without an entry is an empty cell. -/
abbrev Cells := SortedMap Address Value

/-- Which accesses are refused. Accesses are numbered from one. -/
structure FaultPlan where
  /-- Write numbers that are refused, each once. -/
  writes : List Nat := []
  /-- Every write from this number on is refused. -/
  writesFrom : Option Nat := none
  /-- Every write to these cells is refused. -/
  cells : List Address := []
  allReads : Bool := false
  reads : List Nat := []
  deriving DecidableEq, Repr

inductive AccessKind where
  | get
  | set
  | delete
  deriving DecidableEq, Repr

structure Access where
  kind : AccessKind
  address : Address
  refused : Bool
  deriving DecidableEq, Repr

structure Store where
  cells : Cells := ∅
  faults : FaultPlan := {}
  reads : Nat := 0
  writes : Nat := 0
  trace : Array Access := #[]
  deriving DecidableEq

namespace FaultPlan

def rejectsWrite (p : FaultPlan) (number : Nat) (address : Address) : Bool :=
  p.writes.contains number || p.writesFrom.any (· ≤ number) || p.cells.contains address

/-- An armed write number is spent by the write that bears it. -/
def spend (p : FaultPlan) (number : Nat) : FaultPlan :=
  { p with writes := p.writes.filter (· ≠ number) }

def readFault? (p : FaultPlan) (number : Nat) : Option String :=
  if p.allReads then some "injected read failure"
  else if p.reads.contains number then some ("scripted failure on read " ++ toString number)
  else none

end FaultPlan

namespace Store

def ofCells (cells : Cells) : Store := { cells }

def log (s : Store) (kind : AccessKind) (address : Address) (refused : Bool) : Store :=
  { s with trace := s.trace.push ⟨kind, address, refused⟩ }

def get (s : Store) (address : Address) : Except StoreError (Option Value) × Store :=
  let number := s.reads + 1
  match s.faults.readFault? number with
  | some reason =>
    (.error (.readFailed address reason), { s with reads := number }.log .get address true)
  | none => (.ok (s.cells.get? address), { s with reads := number }.log .get address false)

/-- Writes the value, or empties the cell if there is none. -/
def put (s : Store) (address : Address) (value : Option Value) : Except StoreError Unit × Store :=
  let number := s.writes + 1
  let kind := if value.isSome then .set else .delete
  -- An armed number is spent even if another fault refuses the write too.
  let counted := { s with writes := number, faults := s.faults.spend number }
  if s.faults.rejectsWrite number address then
    (.error (.writeRejected address ("injected failure on write " ++ toString number)),
      counted.log kind address true)
  else
    (.ok (), { counted with cells := s.cells.assign address value }.log kind address false)

def set (s : Store) (address : Address) (value : Value) : Except StoreError Unit × Store :=
  s.put address (some value)

def delete (s : Store) (address : Address) : Except StoreError Unit × Store :=
  s.put address none

/-- Empties every cell, past the plan of faults. -/
def clear (s : Store) : Store := { s with cells := ∅ }

inductive Fault where
  | onWrite (number : Nat)
  | onNextWrite
  | writesFrom (number : Nat)
  | atCell (address : Address)
  | allReads
  | onRead (number : Nat)
  deriving DecidableEq, Repr

def arm (s : Store) : Fault → Store
  | .onWrite n => { s with faults := { s.faults with writes := n :: s.faults.writes } }
  | .onNextWrite =>
    { s with faults := { s.faults with writes := (s.writes + 1) :: s.faults.writes } }
  | .writesFrom n => { s with faults := { s.faults with writesFrom := some n } }
  | .atCell a => { s with faults := { s.faults with cells := a :: s.faults.cells } }
  | .allReads => { s with faults := { s.faults with allReads := true } }
  | .onRead n => { s with faults := { s.faults with reads := n :: s.faults.reads } }

/-- Disarms every fault; counts and trace go on. -/
def heal (s : Store) : Store := { s with faults := {} }

def Healthy (s : Store) : Prop := s.faults = {}

theorem put_of_healthy {s : Store} (h : s.Healthy) (a : Address) (v : Option Value) :
    (s.put a v).1 = .ok () ∧ (s.put a v).2.cells = s.cells.assign a v ∧ (s.put a v).2.Healthy := by
  have plan : s.faults = {} := h
  simp [put, FaultPlan.rejectsWrite, FaultPlan.spend, plan, log, Healthy]

end Store

end CellLedger
