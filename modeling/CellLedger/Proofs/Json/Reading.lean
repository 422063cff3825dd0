import CellLedger.Json.Codec
import CellLedger.Proofs.Json.Quotation
import Mathlib.Data.List.TakeWhile

/-!
JSON text reads back (`ofChars?_write`): every value that can be written, that is, one whose numerals
follow the grammar, is read from its text. What may follow the text of a value is a comma, a closing
bracket or nothing.
-/

set_option autoImplicit false

namespace CellLedger

/-- Digits of the form that the grammar asks for: some before the point, no leading zero. -/
structure Numeral.WellFormed (n : Numeral) : Prop where
  nonempty : n.whole ≠ []
  whole : ∀ c ∈ n.whole, c.isDigit = true
  leading : n.whole.head? = some '0' → n.whole.length = 1
  fraction : ∀ c ∈ n.fraction, c.isDigit = true

namespace Json

/-- No character of a value that ends here can follow. -/
def Stops (rest : List Char) : Prop := ∀ c ∈ rest.head?, c = ',' ∨ c = ']' ∨ c = '\x7d'

def NoDigit (rest : List Char) : Prop := ∀ c ∈ rest.head?, c.isDigit = false

theorem Stops.noDigit {rest : List Char} (stops : Stops rest) : NoDigit rest := by
  intro c first
  rcases stops c first with rfl | rfl | rfl <;> rfl

section Numerals

variable {digits rest : List Char}

theorem readDigits_append (nonempty : digits ≠ []) (all : ∀ c ∈ digits, c.isDigit = true)
    (stops : NoDigit rest) : readDigits (digits ++ rest) = some (digits, rest) := by
  have taken : rest.takeWhile Char.isDigit = [] := by
    cases rest with
    | nil => rfl
    | cons c tail => simp [stops c rfl]
  have dropped : rest.dropWhile Char.isDigit = rest := by
    cases rest with
    | nil => rfl
    | cons c tail => simp [stops c rfl]
  rw [readDigits, List.takeWhile_append_of_pos all, List.dropWhile_append_of_pos all, taken,
    dropped]
  simp [nonempty]

theorem readFraction_append (all : ∀ c ∈ digits, c.isDigit = true)
    (stops : ∀ c ∈ rest.head?, c.isDigit = false ∧ c ≠ '.') :
    readFraction ((if digits = [] then [] else '.' :: digits) ++ rest) = some (digits, rest) := by
  by_cases none : digits = []
  · subst none
    cases rest with
    | nil => rfl
    | cons c tail =>
      have other := (stops c rfl).2
      simp [readFraction, other]
  · rw [if_neg none]
    exact readDigits_append none all fun c first => (stops c first).1

def exponentText : Option Int → List Char
  | none => []
  | some e => 'e' :: signedChars e

theorem readExponent_append (exponent : Option Int) (stops : Stops rest) :
    readExponent (exponentText exponent ++ rest) = some (exponent, rest) := by
  cases exponent with
  | none =>
    cases rest with
    | nil => rfl
    | cons c tail =>
      have other : ¬ (c = 'e' ∨ c = 'E') := by
        rcases stops c rfl with rfl | rfl | rfl <;> decide
      simp [exponentText, readExponent, other]
  | some e =>
    have read : readDigits (Nat.toDigits 10 e.natAbs ++ rest) =
        some (Nat.toDigits 10 e.natAbs, rest) :=
      readDigits_append Nat.toDigits_ne_nil
        (fun c member => Nat.isDigit_of_mem_toDigits (by decide) (by decide) member) stops.noDigit
    have back : Nat.ofDigitChars 10 (Nat.toDigits 10 e.natAbs) 0 = e.natAbs :=
      Nat.ofDigitChars_ten_toDigits
    by_cases negative : e < 0
    · have value : -(e.natAbs : Int) = e := by omega
      simp only [exponentText, signedChars, if_pos negative, List.cons_append, readExponent,
        readExponentDigits, read, Option.map_some, back, value, true_or, if_true]
    · have value : (e.natAbs : Int) = e := by omega
      simp only [exponentText, signedChars, if_neg negative, List.cons_append, readExponent,
        readExponentDigits, read, Option.map_some, back, value, true_or, if_true]
      rfl

theorem readUnsigned_append {n : Numeral} (wellFormed : n.WellFormed) (stops : Stops rest) :
    readUnsigned n.negative (n.whole ++ ((if n.fraction = [] then [] else '.' :: n.fraction) ++
      (exponentText n.exponent ++ rest))) = some (n, rest) := by
  have exponent := readExponent_append n.exponent stops
  have afterFraction : ∀ c ∈ (exponentText n.exponent ++ rest).head?,
      c.isDigit = false ∧ c ≠ '.' := by
    intro c first
    cases h : n.exponent with
    | none =>
      rw [h] at first
      rcases stops c first with rfl | rfl | rfl <;> decide
    | some e =>
      rw [h] at first
      obtain rfl : 'e' = c := by simpa [exponentText] using first
      decide
  have fraction := readFraction_append wellFormed.fraction afterFraction
  have afterWhole : NoDigit ((if n.fraction = [] then [] else '.' :: n.fraction) ++
      (exponentText n.exponent ++ rest)) := by
    intro c first
    by_cases none : n.fraction = []
    · rw [if_pos none] at first
      exact (afterFraction c first).1
    · rw [if_neg none] at first
      obtain rfl : '.' = c := by simpa using first
      rfl
  have whole := readDigits_append wellFormed.nonempty wellFormed.whole afterWhole
  have leading : ¬ (n.whole.head? = some '0' ∧ 1 < n.whole.length) := by
    rintro ⟨zero, long⟩
    have := wellFormed.leading zero
    omega
  simp [readUnsigned, whole, fraction, exponent, leading]

theorem readNumeral_write {n : Numeral} (wellFormed : n.WellFormed) (stops : Stops rest) :
    readNumeral (n.write ++ rest) = some (n, rest) := by
  have unsigned := readUnsigned_append wellFormed stops
  have written : n.write ++ rest = (if n.negative then ['-'] else []) ++ (n.whole ++
      ((if n.fraction = [] then [] else '.' :: n.fraction) ++
        (exponentText n.exponent ++ rest))) := by
    simp only [Numeral.write, List.append_assoc]
    rfl
  rw [written]
  cases sign : n.negative with
  | true =>
    rw [sign] at unsigned
    simpa [readNumeral] using unsigned
  | false =>
    rw [sign] at unsigned
    obtain ⟨c, tail, whole⟩ := List.exists_cons_of_ne_nil wellFormed.nonempty
    have digit : c.isDigit = true := wellFormed.whole c (by simp [whole])
    have other : c ≠ '-' := by
      rintro rfl
      simp at digit
    rw [whole] at unsigned ⊢
    simpa [readNumeral, other] using unsigned

-- A number begins with no character that begins another value or ends an array.
theorem write_numeral_head {n : Numeral} (wellFormed : n.WellFormed) :
    ∃ c tail, n.write = c :: tail ∧ isBlank c = false ∧
      c ∉ ['"', '[', '\x7b', 'n', 't', 'f', ']'] := by
  cases sign : n.negative with
  | true => exact ⟨'-', _, by simp [Numeral.write, sign]; rfl, rfl, by decide⟩
  | false =>
    obtain ⟨c, tail, whole⟩ := List.exists_cons_of_ne_nil wellFormed.nonempty
    have digit : c.isDigit = true := wellFormed.whole c (by simp [whole])
    refine ⟨c, _, by simp [Numeral.write, sign, whole]; rfl, ?_, ?_⟩
    · have blanks : ∀ d ∈ [' ', '\t', '\n', '\r'], d.isDigit = false := by simp
      cases blank : isBlank c with
      | false => rfl
      | true =>
        have among : c ∈ [' ', '\t', '\n', '\r'] := by
          simpa [isBlank, or_assoc] using blank
        rw [blanks c among] at digit
        cases digit
    · have others : ∀ d ∈ ['"', '[', '\x7b', 'n', 't', 'f', ']'], d.isDigit = false := by simp
      intro among
      rw [others c among] at digit
      cases digit

end Numerals

/-- All numerals in it follow the grammar. -/
inductive WellFormed : Json → Prop
  | null : WellFormed .null
  | bool (b : Bool) : WellFormed (.bool b)
  | number {n : Numeral} : n.WellFormed → WellFormed (.number n)
  | string (s : Option String) : WellFormed (.string s)
  | array {items : List Json} : (∀ j ∈ items, WellFormed j) → WellFormed (.array items)
  | object {members : List (Option String × Json)} :
      (∀ m ∈ members, WellFormed m.2) → WellFormed (.object members)

theorem skipBlanks_cons {c : Char} (visible : isBlank c = false) (rest : List Char) :
    skipBlanks (c :: rest) = c :: rest := by
  simp [skipBlanks, visible]

theorem writeString_head (s : Option String) : ∃ tail, writeString s = '"' :: tail := by
  cases s with
  | none => exact ⟨_, rfl⟩
  | some s => exact ⟨_, rfl⟩

theorem write_head {j : Json} (wellFormed : j.WellFormed) :
    ∃ c tail, j.write = c :: tail ∧ isBlank c = false ∧ c ≠ ']' := by
  cases wellFormed with
  | null => exact ⟨'n', _, rfl, rfl, by decide⟩
  | bool b => cases b <;> exact ⟨_, _, rfl, rfl, by decide⟩
  | number n =>
    obtain ⟨c, tail, written, visible, other⟩ := write_numeral_head n
    exact ⟨c, tail, written, visible, by rintro rfl; simp at other⟩
  | string s =>
    obtain ⟨tail, written⟩ := writeString_head s
    exact ⟨'"', tail, written, rfl, by decide⟩
  | array items => exact ⟨'[', _, rfl, rfl, by decide⟩
  | object members => exact ⟨'\x7b', _, rfl, rfl, by decide⟩

/-- Two calls for each character are enough to read the value. -/
def Reads (j : Json) : Prop :=
  ∀ fuel rest, 2 * j.write.length ≤ fuel → Stops rest →
    readValue fuel (j.write ++ rest) = some (j, rest)

section Steps

variable {fuel : Nat} {cs rest : List Char} {j : Json}

theorem readValue_items {c : Char} (visible : isBlank c = false) (other : c ≠ ']') :
    readValue (fuel + 1) ('[' :: c :: cs) =
      (readItems fuel (c :: cs)).map fun r => (.array r.1, r.2) := by
  rw [readValue, skipBlanks_cons rfl]
  simp [skipBlanks_cons visible, other]

theorem readValue_members :
    readValue (fuel + 1) ('\x7b' :: '"' :: cs) =
      (readMembers fuel ('"' :: cs)).map fun r => (.object r.1, r.2) := by
  rw [readValue, skipBlanks_cons rfl]
  simp [skipBlanks_cons (c := '"') rfl]

theorem readItems_last (item : readValue fuel cs = some (j, ']' :: rest)) :
    readItems (fuel + 1) cs = some ([j], rest) := by
  rw [readItems, item]
  rfl

theorem readItems_more (item : readValue fuel cs = some (j, ',' :: rest)) :
    readItems (fuel + 1) cs = (readItems fuel rest).map fun r => (j :: r.1, r.2) := by
  rw [readItems, item]
  rfl

theorem readMembers_last (name : Option String)
    (value : readValue fuel cs = some (j, '\x7d' :: rest)) :
    readMembers (fuel + 1) (writeString name ++ ':' :: cs) = some ([(name, j)], rest) := by
  obtain ⟨body, written, read⟩ := readString_writeString name (':' :: cs)
  rw [written, readMembers, skipBlanks_cons rfl]
  simp [read, value, skipBlanks_cons (c := ':') rfl, skipBlanks_cons (c := '\x7d') rfl]

theorem readMembers_more (name : Option String)
    (value : readValue fuel cs = some (j, ',' :: rest)) :
    readMembers (fuel + 1) (writeString name ++ ':' :: cs) =
      (readMembers fuel rest).map fun r => ((name, j) :: r.1, r.2) := by
  obtain ⟨body, written, read⟩ := readString_writeString name (':' :: cs)
  rw [written, readMembers, skipBlanks_cons rfl]
  simp [read, value, skipBlanks_cons (c := ':') rfl, skipBlanks_cons (c := ',') rfl]

end Steps

theorem writeItems_head (j : Json) (items : List Json) :
    ∃ tail, writeItems (j :: items) = j.write ++ tail := by
  cases items with
  | nil => exact ⟨[], by simp [writeItems]⟩
  | cons k items => exact ⟨_, rfl⟩

theorem writeMembers_head (m : Option String × Json) (members : List (Option String × Json)) :
    ∃ tail, writeMembers (m :: members) = '"' :: tail := by
  obtain ⟨tail, name⟩ := writeString_head m.1
  cases members with
  | nil => exact ⟨_, by rw [writeMembers, name]; rfl⟩
  | cons k members => exact ⟨_, by rw [writeMembers, name]; rfl⟩

-- One call more than for a value, which the comma before the next item or the bracket pays for.
theorem readItems_write {items : List Json} (nonempty : items ≠ [])
    (reads : ∀ j ∈ items, j.Reads) (fuel : Nat) (rest : List Char)
    (enough : 2 * (writeItems items).length + 1 ≤ fuel) :
    readItems fuel (writeItems items ++ ']' :: rest) = some (items, rest) := by
  induction items generalizing fuel with
  | nil => exact absurd rfl nonempty
  | cons j items ih =>
    obtain ⟨fuel, rfl⟩ : ∃ n, fuel = n + 1 := ⟨fuel - 1, by omega⟩
    cases items with
    | nil =>
      rw [writeItems] at enough ⊢
      exact readItems_last (reads j (by simp) fuel _ (by omega) (by simp [Stops]))
    | cons k items =>
      rw [writeItems, List.length_append, List.length_cons] at enough
      have others := ih (by simp) (fun i member => reads i (by simp [member])) fuel (by omega)
      rw [writeItems, List.append_assoc, List.cons_append,
        readItems_more (reads j (by simp) fuel _ (by omega) (by simp [Stops])), others]
      rfl

theorem readMembers_write {members : List (Option String × Json)} (nonempty : members ≠ [])
    (reads : ∀ m ∈ members, m.2.Reads) (fuel : Nat) (rest : List Char)
    (enough : 2 * (writeMembers members).length + 1 ≤ fuel) :
    readMembers fuel (writeMembers members ++ '\x7d' :: rest) = some (members, rest) := by
  induction members generalizing fuel with
  | nil => exact absurd rfl nonempty
  | cons m members ih =>
    obtain ⟨name, j⟩ := m
    obtain ⟨fuel, rfl⟩ : ∃ n, fuel = n + 1 := ⟨fuel - 1, by omega⟩
    have value : j.Reads := reads (name, j) (by simp)
    cases members with
    | nil =>
      rw [writeMembers, List.length_append, List.length_cons] at enough
      rw [writeMembers, List.append_assoc, List.cons_append]
      exact readMembers_last name (value fuel _ (by omega) (by simp [Stops]))
    | cons k members =>
      simp only [writeMembers, List.length_append, List.length_cons] at enough
      have others := ih (by simp) (fun i member => reads i (by simp [member])) fuel (by omega)
      simp only [writeMembers, List.append_assoc, List.cons_append]
      rw [readMembers_more name (value fuel _ (by omega) (by simp [Stops])), others]
      rfl

theorem reads_of_succ {j : Json} (wellFormed : j.WellFormed)
    (reads : ∀ fuel rest, 2 * j.write.length ≤ fuel + 1 → Stops rest →
      readValue (fuel + 1) (j.write ++ rest) = some (j, rest)) : j.Reads := by
  intro fuel rest enough stops
  obtain ⟨c, tail, written, _⟩ := write_head wellFormed
  have positive : 0 < fuel := by
    simp only [written, List.length_cons] at enough
    omega
  obtain ⟨fuel, rfl⟩ : ∃ n, fuel = n + 1 := ⟨fuel - 1, by omega⟩
  exact reads fuel rest enough stops

theorem WellFormed.reads {j : Json} (wellFormed : j.WellFormed) : j.Reads := by
  induction wellFormed with
  | null => exact reads_of_succ .null fun _ _ _ _ => rfl
  | bool b =>
    refine reads_of_succ (.bool b) fun _ _ _ _ => ?_
    cases b <;> rfl
  | @number n wellFormed =>
    refine reads_of_succ (.number wellFormed) fun fuel rest _ stops => ?_
    have read := readNumeral_write wellFormed stops
    obtain ⟨c, tail, written, visible, other⟩ := write_numeral_head wellFormed
    simp only [List.mem_cons, not_or] at other
    rw [written, List.cons_append] at read
    rw [write, written, List.cons_append, readValue, skipBlanks_cons visible]
    simp [other, read]
  | string s =>
    refine reads_of_succ (.string s) fun fuel rest _ _ => ?_
    obtain ⟨body, written, read⟩ := readString_writeString s rest
    rw [write, written, readValue, skipBlanks_cons rfl]
    simp [read]
  | @array items wellFormed ih =>
    refine reads_of_succ (.array wellFormed) fun fuel rest enough _ => ?_
    cases items with
    | nil => rfl
    | cons k items =>
      -- No item begins with the bracket that ends an empty array.
      obtain ⟨c, first, head, visible, other⟩ := write_head (wellFormed k (by simp))
      obtain ⟨others, written⟩ := writeItems_head k items
      simp only [write, List.length_append, List.length_cons] at enough
      have read := readItems_write (by simp) ih fuel rest (by omega)
      simp only [written, head, List.cons_append, List.append_assoc] at read
      simp only [write, written, head, List.cons_append, List.append_assoc, List.nil_append]
      rw [readValue_items visible other, read]
      rfl
  | @object members wellFormed ih =>
    refine reads_of_succ (.object wellFormed) fun fuel rest enough _ => ?_
    cases members with
    | nil => rfl
    | cons m members =>
      obtain ⟨tail, written⟩ := writeMembers_head m members
      simp only [write, List.length_append, List.length_cons] at enough
      have read := readMembers_write (by simp) ih fuel rest (by omega)
      rw [written, List.cons_append] at read
      simp only [write, written, List.cons_append, List.append_assoc, List.nil_append]
      rw [readValue_members, read]
      rfl

theorem ofChars?_write {j : Json} (wellFormed : j.WellFormed) : ofChars? j.write = some j := by
  have read := wellFormed.reads (2 * j.write.length + 2) [] (by omega) (by simp [Stops])
  rw [List.append_nil] at read
  rw [ofChars?, read]
  rfl

end Json

end CellLedger
