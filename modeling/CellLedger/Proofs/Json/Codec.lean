import CellLedger.Proofs.Json.Numeral
import CellLedger.Proofs.SortedMap.Lookup

/-!
Values that are shipped as text: a value ships if its JSON can be written and is read back as the
value. Each codec that is built from others ships what is made of values that these ship.
-/

set_option autoImplicit false

namespace CellLedger

namespace Json

theorem WellFormed.record {members : List (String × Json)}
    (all : ∀ m ∈ members, m.2.WellFormed) : (record members).WellFormed := by
  refine .object fun m member => ?_
  obtain ⟨n, among, rfl⟩ := List.mem_map.mp member
  exact all n among

theorem WellFormed.text (s : String) : (text s).WellFormed := .string _

section Record

variable {members : List (String × Json)}

theorem named_record_of_not_mem {name : String} (absent : name ∉ members.map Prod.fst) :
    named name (members.map fun m => (some m.1, m.2)) = [] := by
  rw [named, List.map_eq_nil_iff, List.filter_eq_nil_iff]
  intro m member
  obtain ⟨n, among, rfl⟩ := List.mem_map.mp member
  have other : n.1 ≠ name := fun same => absent (same ▸ List.mem_map_of_mem among)
  simpa using other

theorem named_record (distinct : (members.map Prod.fst).Nodup) {m : String × Json}
    (member : m ∈ members) : named m.1 (members.map fun m => (some m.1, m.2)) = [m.2] := by
  induction members with
  | nil => cases member
  | cons head rest ih =>
    obtain ⟨fresh, distinct⟩ := List.nodup_cons.mp distinct
    rcases List.mem_cons.mp member with rfl | later
    · have others := named_record_of_not_mem fresh
      simpa [named] using others
    · have other : head.1 ≠ m.1 := fun same => fresh (same ▸ List.mem_map_of_mem later)
      have found := ih distinct later
      simpa [named, other] using found

theorem fields?_record (closed : Bool) (distinct : (members.map Prod.fst).Nodup) :
    (record members).fields? closed (members.map Prod.fst) =
      some (members.map fun m => some m.2) := by
  let written := members.map fun m => ((some m.1 : Option String), m.2)
  let names := members.map Prod.fst
  have known : (written.all fun m => m.1.any fun name => !closed || names.contains name) = true := by
    refine List.all_eq_true.mpr fun m member => ?_
    obtain ⟨n, among, rfl⟩ := List.mem_map.mp member
    have listed : n.1 ∈ names := List.mem_map_of_mem among
    simp [listed]
  have once : (names.all fun name => decide ((named name written).length ≤ 1)) = true := by
    refine List.all_eq_true.mpr fun name member => ?_
    obtain ⟨m, among, rfl⟩ := List.mem_map.mp member
    simp [written, named_record distinct among]
  have fields : (names.map fun name => (named name written).head?) =
      members.map fun m => some m.2 := by
    rw [List.map_map]
    refine List.map_congr_left fun m member => ?_
    simp [written, named_record distinct member]
  change (if _ then _ else _) = _
  rw [if_pos (by rw [known, once]; rfl), fields]

end Record

end Json

namespace Codec

variable {α : Type}

structure Ships (c : Codec α) (x : α) : Prop where
  faithful : c.Faithful x
  wellFormed : (c.write x).WellFormed

theorem ofText?_toText {c : Codec α} {x : α} (wellFormed : (c.write x).WellFormed) :
    c.ofText? (c.toText x) = c.read? (c.write x) := by
  rw [ofText?, toText, String.toList_ofList, Json.ofChars?_write wellFormed]
  rfl

theorem Ships.ofText? {c : Codec α} {x : α} (ships : c.Ships x) :
    c.ofText? (c.toText x) = some x :=
  (ofText?_toText ships.wellFormed).trans ships.faithful

theorem Ships.read {c : Codec α} {x : α} (ships : c.Ships x) : c.read? (c.write x) = some x :=
  ships.faithful

theorem bool_ships (b : Bool) : bool.Ships b := ⟨rfl, .bool b⟩

theorem string_ships (s : String) : string.Ships s := ⟨rfl, .text s⟩

theorem natural_ships {bound n : Nat} (small : n < bound) : (natural bound).Ships n where
  faithful := by
    simp [Faithful, natural, Json.natural, Numeral.natural?, Nat.ofDigitChars_ten_toDigits, small]
  wellFormed := .number (.natural n)

theorem number_wellFormed (x : Number) : (number.write x).WellFormed := by
  simp only [number]
  split
  · exact .number (.ofNumber x)
  · exact .null

theorem number_read? (x : Number) :
    number.read? (number.write x) = if x.isFinite then some x else none := by
  cases finite : x.isFinite with
  | true => simp [number, finite, Numeral.number?_ofNumber]
  | false => simp [number, finite]

theorem number_ships {x : Number} (finite : x.isFinite = true) : number.Ships x :=
  ⟨(number_read? x).trans (if_pos finite), number_wellFormed x⟩

theorem viaString_ships {write : α → String} {read? : String → Option α} {x : α}
    (reads : read? (write x) = some x) : (viaString write read?).Ships x where
  faithful := reads
  wellFormed := .text _

theorem option_ships_none (c : Codec α) : c.option.Ships none := ⟨rfl, .null⟩

theorem option_read?_some (c : Codec α) {x : α} (visible : c.write x ≠ .null) :
    c.option.read? (c.option.write (some x)) = (c.read? (c.write x)).map some := by
  change c.option.read? (c.write x) = _
  cases written : c.write x with
  | null => exact absurd written visible
  | _ => rfl

theorem Ships.option {c : Codec α} {x : α} (ships : c.Ships x) (visible : c.write x ≠ .null) :
    c.option.Ships (some x) where
  faithful := (c.option_read?_some visible).trans (congrArg (Option.map some) ships.faithful)
  wellFormed := ships.wellFormed

theorem mapM_map_eq_some {β : Type} {write : α → β} {read? : β → Option α} {xs : List α}
    (reads : ∀ x ∈ xs, read? (write x) = some x) : (xs.map write).mapM read? = some xs := by
  induction xs with
  | nil => rfl
  | cons x xs ih =>
    have first := reads x List.mem_cons_self
    have rest := ih fun y member => reads y (List.mem_cons_of_mem _ member)
    simp [List.mapM_cons, first, rest]

theorem Ships.list {c : Codec α} {xs : List α} (ships : ∀ x ∈ xs, c.Ships x) :
    c.list.Ships xs where
  faithful := mapM_map_eq_some fun x member => (ships x member).faithful
  wellFormed := by
    refine .array fun j member => ?_
    obtain ⟨x, among, rfl⟩ := List.mem_map.mp member
    exact (ships x among).wellFormed

section Map

variable {K : Type} [KeyOrder K] {write : K → String} {read? : String → Option K}
  {c : Codec α} {m : SortedMap K α}

theorem map_wellFormed (values : ∀ e ∈ m.entries, (c.write e.2).WellFormed) :
    ((map write read? c).write m).WellFormed := by
  refine .record fun e member => ?_
  obtain ⟨entry, among, rfl⟩ := List.mem_map.mp member
  exact values entry among

/-- The entry that a member of an object stands for. -/
def member? (read? : String → Option K) (c : Codec α) (m : Option String × Json) :
    Option (K × α) := do
  let key ← read? (← m.1)
  let value ← c.read? m.2
  some (key, value)

theorem map_read? (m : SortedMap K α) :
    (map write read? c).read? ((map write read? c).write m) =
      ((m.entries.map fun e => (some (write e.1), c.write e.2)).mapM
        (member? read? c)).map SortedMap.ofList := by
  simp only [map, Json.record, List.map_map]
  rfl

theorem Ships.map [DecidableEq K] (keys : ∀ key, read? (write key) = some key)
    (values : ∀ e ∈ m.entries, c.Ships e.2) : (Codec.map write read? c).Ships m where
  faithful := by
    rw [Faithful, map_read?, mapM_map_eq_some, Option.map_some, m.ofList_entries]
    intro e member
    simp [member?, keys, (values e member).read]
  wellFormed := map_wellFormed fun e member => (values e member).wellFormed

end Map

theorem lookup_of_mem {names : List (String × α)} (distinct : (names.map Prod.fst).Nodup)
    {p : String × α} (member : p ∈ names) : names.lookup p.1 = some p.2 := by
  induction names with
  | nil => cases member
  | cons head rest ih =>
    obtain ⟨fresh, distinct⟩ := List.nodup_cons.mp distinct
    rcases List.mem_cons.mp member with rfl | later
    · exact List.lookup_cons_self
    · have other : p.1 ≠ head.1 := fun same => fresh (same ▸ List.mem_map_of_mem later)
      rw [List.lookup_cons, beq_false_of_ne other]
      exact ih distinct later

theorem choice_ships [DecidableEq α] {names : List (String × α)} {x : α}
    (distinct : (names.map Prod.fst).Nodup) (listed : x ∈ names.map Prod.snd) :
    (choice names).Ships x where
  faithful := by
    obtain ⟨p, member, rfl⟩ := List.mem_map.mp listed
    obtain ⟨q, found⟩ : ∃ q, names.find? (fun r => r.2 = p.2) = some q := by
      rw [← Option.isSome_iff_exists, List.find?_isSome]
      exact ⟨p, member, by simp⟩
    have same : q.2 = p.2 := by simpa using List.find?_some found
    have back := lookup_of_mem distinct (List.mem_of_find?_eq_some found)
    simp only [Faithful, choice, Json.text, found, Option.elim_some, back, same]
  wellFormed := .text _

section Record

variable {c : Codec α} {x : α} {closed : Bool} {names : List String}
  {members : List (String × Json)} {decode : List (Option Json) → Option α}

/-- A codec that writes a record and decodes the fields of one. -/
theorem record_read? (reads : ∀ j, c.read? j = (j.fields? closed names).bind decode)
    (writes : c.write x = .record members) (named : members.map Prod.fst = names)
    (distinct : names.Nodup) :
    c.read? (c.write x) = decode (members.map fun m => some m.2) := by
  subst named
  rw [reads, writes, Json.fields?_record closed distinct]
  rfl

theorem Ships.record (reads : ∀ j, c.read? j = (j.fields? closed names).bind decode)
    (writes : c.write x = .record members) (named : members.map Prod.fst = names)
    (distinct : names.Nodup) (wellFormed : ∀ m ∈ members, m.2.WellFormed)
    (decodes : decode (members.map fun m => some m.2) = some x) : c.Ships x where
  faithful := (record_read? reads writes named distinct).trans decodes
  wellFormed := writes ▸ .record wellFormed

end Record

end Codec

end CellLedger
