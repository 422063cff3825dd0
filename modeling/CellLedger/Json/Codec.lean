import CellLedger.Json.Numeral
import CellLedger.Json.Reader
import CellLedger.SortedMap

/-!
Codecs between data and JSON. A codec is faithful to a value if it reads back what it writes.
Records are written as objects with all their fields in order. They are read from an object, whose
further members are ignored, or from an array of all the fields in order.
-/

set_option autoImplicit false

namespace CellLedger

structure Codec (α : Type) where
  write : α → Json
  read? : Json → Option α

namespace Codec

variable {α : Type}

def Faithful (c : Codec α) (x : α) : Prop := c.read? (c.write x) = some x

def toText (c : Codec α) (x : α) : String := String.ofList (c.write x).write

def ofText? (c : Codec α) (s : String) : Option α := (Json.ofChars? s.toList).bind c.read?

def bool : Codec Bool where
  write := .bool
  read? := fun
    | .bool b => some b
    | _ => none

def string : Codec String where
  write := .text
  read? := fun
    | .string s => s
    | _ => none

def natural (bound : Nat) : Codec Nat where
  write := .natural
  read? := fun
    | .number n => n.natural? bound
    | _ => none

/-- Counts fit sixty-four bits. -/
def count : Codec Nat := natural UInt64.size

/-- What is not finite has no numeral and is written as null, which is not read back. -/
def number : Codec Number where
  write x := if x.isFinite then .number (.ofNumber x) else .null
  read? := fun
    | .number n => n.number?
    | _ => none

def option (c : Codec α) : Codec (Option α) where
  write := fun
    | none => .null
    | some x => c.write x
  read? := fun
    | .null => some none
    | j => (c.read? j).map some

def list (c : Codec α) : Codec (List α) where
  write xs := .array (xs.map c.write)
  read? := fun
    | .array items => items.mapM c.read?
    | _ => none

def viaString (write : α → String) (read? : String → Option α) : Codec α where
  write x := .text (write x)
  read? := fun
    | .string s => s.bind read?
    | _ => none

/-- Members are read in order, so that the last of two with one key counts. -/
def map {K V : Type} [KeyOrder K] (write : K → String) (read? : String → Option K) (c : Codec V) :
    Codec (SortedMap K V) where
  write m := .record (m.entries.map fun e => (write e.1, c.write e.2))
  read? := fun
    | .object members =>
      let entry (m : Option String × Json) : Option (K × V) := do
        let key ← read? (← m.1)
        let value ← c.read? m.2
        some (key, value)
      (members.mapM entry).map SortedMap.ofList
    | _ => none

/-- One of the listed names, or an object whose only member has such a name and holds null. -/
def choice [DecidableEq α] (names : List (String × α)) : Codec α where
  write x := .text ((names.find? fun p => p.2 = x).elim "" Prod.fst)
  read? := fun
    | .string (some s) => names.lookup s
    | .object [(some s, .null)] => names.lookup s
    | _ => none

end Codec

namespace Json

def named (name : String) (members : List (Option String × Json)) : List Json :=
  (members.filter fun m => m.1 = some name).map Prod.snd

/-- The fields of a record in this order, `none` for one that is absent. Every member must have a
name that is a text, no field may occur twice, and a closed record has no further members. -/
def fields? (closed : Bool) (names : List String) : Json → Option (List (Option Json))
  | .array items => if items.length = names.length then some (items.map some) else none
  | .object members =>
    let known := members.all fun m => m.1.any fun name => !closed || names.contains name
    let once := names.all fun name => decide ((named name members).length ≤ 1)
    if known && once then some (names.map fun name => (named name members).head?) else none
  | _ => none

end Json

namespace Codec

variable {α : Type}

def required? (c : Codec α) (field : Option Json) : Option α := field.bind c.read?

def optional? (c : Codec α) : Option Json → Option (Option α)
  | none => some none
  | some j => c.option.read? j

end Codec

end CellLedger
