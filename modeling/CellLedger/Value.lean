import CellLedger.Number.Text
import CellLedger.Text.Blank

/-!
What a cell can hold. An empty cell holds no value, so contents are an `Option Value`.
`Value.same` is the equality that decides whether a write would alter a cell: it compares numbers by
value, so that it is coarser than equality of what is stored.
-/

set_option autoImplicit false

namespace CellLedger

inductive Value where
  | text (s : String)
  | number (x : Number)
  | boolean (b : Bool)
  /-- The formula without its leading equals sign. -/
  | formula (body : String)
  deriving DecidableEq, Repr

namespace Value

instance : Inhabited Value := ⟨.text ""⟩

/-- A formula from its source, of which one leading equals sign is dropped. -/
def ofFormula (source : String) : Value :=
  match source.toList with
  | '=' :: body => .formula (String.ofList body)
  | _ => .formula source

def isFormula : Value → Bool
  | .formula _ => true
  | _ => false

/-- A formula as the user typed it. -/
def formulaText? : Value → Option String
  | .formula body => some ("=" ++ body)
  | _ => none

def number? : Value → Option Number
  | .number x => some x
  | _ => none

def text? : Value → Option String
  | .text s => some s
  | _ => none

def display : Value → String
  | .text s => s
  | .number x => x.text
  | .boolean true => "TRUE"
  | .boolean false => "FALSE"
  | .formula body => "=" ++ body

/-- A formula of blanks only, which no operation may write. -/
def isBlankFormula : Value → Bool
  | .formula body => (Text.trim body.toList).isEmpty
  | _ => false

def same : Value → Value → Bool
  | .number x, .number y => x.same y
  | a, b => decide (a = b)

/-- Equality of contents; an empty cell equals only an empty cell. -/
def sameContents : Option Value → Option Value → Bool
  | some a, some b => a.same b
  | none, none => true
  | _, _ => false

/-- For each value the index of the first one equal to it. -/
def firstSame (values : List Value) : List Nat :=
  values.map fun v => values.findIdx (·.same v)

def distinct (values : List Value) : Nat :=
  ((firstSame values).zipIdx.filter fun p => p.1 = p.2).length

@[simp] theorem same_refl (a : Value) : a.same a = true := by
  cases a <;> simp [same]

theorem same_symm {a b : Value} (h : a.same b = true) : b.same a = true := by
  cases a <;> cases b <;> simp_all [same]
  exact Number.same_symm h

theorem same_trans {a b c : Value} (h : a.same b = true) (k : b.same c = true) :
    a.same c = true := by
  cases a <;> cases b <;> cases c <;> simp_all [same]
  exact Number.same_trans h k

@[simp] theorem sameContents_refl (a : Option Value) : sameContents a a = true := by
  cases a <;> simp [sameContents]

theorem sameContents_symm {a b : Option Value} (h : sameContents a b = true) :
    sameContents b a = true := by
  cases a <;> cases b <;> simp_all [sameContents]
  exact same_symm h

theorem sameContents_trans {a b c : Option Value} (h : sameContents a b = true)
    (k : sameContents b c = true) : sameContents a c = true := by
  cases a <;> cases b <;> cases c <;> simp_all [sameContents]
  exact same_trans h k

end Value

end CellLedger
