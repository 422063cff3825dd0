import CellLedger.Store.Error
import Mathlib.Data.List.Induction
import Mathlib.Data.List.TakeWhile
import Mathlib.Data.Nat.Digits.Defs

/-!
Which texts are keys of cells (`parse_exact`): those with a comma whose two sides spell an index
each. A side may be spelled in many ways, of which the key of a cell takes one, so that reading the
key of what was read changes nothing.
-/

set_option autoImplicit false

namespace CellLedger

namespace Text

def Blanks (cs : List Char) : Prop := ∀ c ∈ cs, isBlank c = true

theorem dropWhile_isBlank_append {before rest : List Char} (blanks : Blanks before)
    (solid : ∀ c ∈ rest.head?, isBlank c = false) :
    (before ++ rest).dropWhile isBlank = rest := by
  rw [List.dropWhile_append_of_pos blanks]
  cases rest with
  | nil => rfl
  | cons c cs => simp [solid c (by simp)]

theorem trim_between {before core after : List Char} (blankBefore : Blanks before)
    (blankAfter : Blanks after) (solid : ∀ c ∈ core, isBlank c = false) (some : core ≠ []) :
    trim (before ++ (core ++ after)) = core := by
  obtain ⟨c, cs, rfl⟩ := List.exists_cons_of_ne_nil some
  have first : (before ++ (c :: cs ++ after)).dropWhile isBlank = c :: cs ++ after :=
    dropWhile_isBlank_append blankBefore (by simp [solid c])
  have last : (after.reverse ++ (c :: cs).reverse).dropWhile isBlank = (c :: cs).reverse := by
    refine dropWhile_isBlank_append (fun d member => blankAfter d (by simpa using member)) ?_
    intro d head
    exact solid d (List.mem_reverse.1 (List.mem_of_mem_head? head))
  rw [trim, first, List.reverse_append, last, List.reverse_reverse]

theorem exists_between (cs : List Char) :
    ∃ before after, Blanks before ∧ Blanks after ∧ cs = before ++ (trim cs ++ after) := by
  let rest := cs.dropWhile isBlank
  refine ⟨cs.takeWhile isBlank, (rest.reverse.takeWhile isBlank).reverse,
    fun c member => List.mem_takeWhile_imp member,
    fun c member => List.mem_takeWhile_imp (List.mem_reverse.1 member), ?_⟩
  have split : rest = trim cs ++ (rest.reverse.takeWhile isBlank).reverse := by
    rw [trim, ← List.reverse_append, List.takeWhile_append_dropWhile, List.reverse_reverse]
  rw [← split, List.takeWhile_append_dropWhile]

end Text

namespace Address

/-- The number that decimal digits stand for, the last digit counting units. -/
def digitsDenote (digits : List Char) : Nat :=
  Nat.ofDigits 10 (digits.reverse.map fun c => c.toNat - '0'.toNat)

/-- The characters stand for the number: they are decimal digits, at least one, which may follow a
single plus sign and stand between blanks. -/
inductive Spells (cs : List Char) (n : Nat) : Prop
  | intro {before sign digits after : List Char} (text : cs = before ++ (sign ++ digits ++ after))
      (blankBefore : Text.Blanks before) (blankAfter : Text.Blanks after)
      (signed : sign = [] ∨ sign = ['+']) (some : digits ≠ [])
      (decimal : ∀ c ∈ digits, c.isDigit = true) (value : digitsDenote digits = n)

/-- The text has a comma, and what stands before and after the first one spells row and column. -/
def Denotes (s : String) (row col : Nat) : Prop :=
  ∃ left right, s.toList = left ++ ',' :: right ∧ ',' ∉ left ∧ Spells left row ∧ Spells right col

theorem ofDigitChars_eq (digits : List Char) :
    Nat.ofDigitChars 10 digits 0 = digitsDenote digits := by
  induction digits using List.reverseRecOn with
  | nil => rfl
  | append_singleton cs c ih =>
    rw [Nat.ofDigitChars_append, ih, digitsDenote, digitsDenote, List.reverse_append]
    simp [Nat.ofDigitChars_cons, Nat.ofDigits_cons, Nat.add_comm]

theorem exists_sign (cs : List Char) :
    ∃ sign, (sign = [] ∨ sign = ['+']) ∧ cs = sign ++ dropPlus cs := by
  unfold dropPlus
  split
  · exact ⟨['+'], .inr rfl, rfl⟩
  · exact ⟨[], .inl rfl, rfl⟩

theorem readIndex?_eq_some_iff {cs : List Char} {n : UInt32} :
    readIndex? cs = some n ↔ Spells cs n.toNat := by
  constructor
  · intro read
    simp only [readIndex?, Option.ite_none_right_eq_some, Option.some.injEq] at read
    obtain ⟨⟨some, decimal, small⟩, rfl⟩ := read
    obtain ⟨before, after, blankBefore, blankAfter, text⟩ := Text.exists_between cs
    obtain ⟨sign, signed, split⟩ := exists_sign (Text.trim cs)
    rw [split] at text
    refine ⟨text, blankBefore, blankAfter, signed, some, List.all_eq_true.1 decimal, ?_⟩
    rw [← ofDigitChars_eq, UInt32.toNat_ofNat_of_lt' small]
  · rintro ⟨rfl, blankBefore, blankAfter, signed, some, decimal, value⟩
    rename_i before sign digits after
    have solid : ∀ c ∈ sign ++ digits, Text.isBlank c = false := by
      intro c member
      rcases List.mem_append.1 member with member | member
      · rcases signed with rfl | rfl
        · simp at member
        · obtain rfl := List.mem_singleton.1 member
          rfl
      · exact isBlank_of_isDigit (decimal c member)
    have trimmed : Text.trim (before ++ (sign ++ digits ++ after)) = sign ++ digits :=
      Text.trim_between blankBefore blankAfter solid (by simp [some])
    have unsigned : dropPlus (sign ++ digits) = digits := by
      rcases signed with rfl | rfl
      · exact dropPlus_eq_self decimal
      · rfl
    have small : digitsDenote digits < UInt32.size := value ▸ n.toNat_lt
    simp only [readIndex?, trimmed, unsigned, ofDigitChars_eq]
    rw [if_pos ⟨some, List.all_eq_true.2 decimal, small⟩, value, UInt32.ofNat_toNat]

theorem readKey?_eq_some_iff {cs : List Char} {a : Address} :
    readKey? cs = some a ↔ ∃ left right, cs = left ++ ',' :: right ∧ ',' ∉ left ∧
      readIndex? left = some a.row ∧ readIndex? right = some a.col := by
  constructor
  · intro read
    have split := List.takeWhile_append_dropWhile (p := (· ≠ ',')) (l := cs)
    have comma := List.head?_dropWhile_not (· ≠ ',') cs
    have clear : ',' ∉ cs.takeWhile (· ≠ ',') :=
      fun member => by simpa using List.mem_takeWhile_imp member
    unfold readKey? at read
    generalize cs.dropWhile (· ≠ ',') = rest at read split comma
    cases rest with
    | nil => simp at read
    | cons c right =>
      obtain rfl : c = ',' := by simpa using comma
      simp only [Option.bind_eq_bind, Option.bind_eq_some_iff, Option.some.injEq] at read
      obtain ⟨row, left, col, right', rfl⟩ := read
      exact ⟨_, right, split.symm, clear, left, right'⟩
  · rintro ⟨left, right, rfl, clear, row, col⟩
    obtain ⟨before, after⟩ := span_comma clear right
    simp only [readKey?, before, after, row, col]
    rfl

theorem parse_eq_ok_iff {s : String} {a : Address} :
    parse s = .ok a ↔ Denotes s a.row.toNat a.col.toNat := by
  have read : parse s = .ok a ↔ readKey? s.toList = some a := by
    unfold parse ofKey?
    cases readKey? s.toList <;> simp
  simp only [read, readKey?_eq_some_iff, readIndex?_eq_some_iff, Denotes]

theorem parse_key (a : Address) : parse a.key = .ok a := by
  rw [parse, ofKey?_key]

theorem key_injective : Function.Injective key := by
  intro a b same
  have read := parse_key a
  rw [same, parse_key] at read
  exact (Except.ok.inj read).symm

theorem exists_parse_iff {s : String} :
    (∃ a, parse s = .ok a) ↔ ∃ row < 2 ^ 32, ∃ col < 2 ^ 32, Denotes s row col := by
  constructor
  · rintro ⟨a, read⟩
    exact ⟨_, a.row.toNat_lt, _, a.col.toNat_lt, parse_eq_ok_iff.1 read⟩
  · rintro ⟨row, rowSmall, col, colSmall, denotes⟩
    refine ⟨⟨UInt32.ofNat row, UInt32.ofNat col⟩, parse_eq_ok_iff.2 ?_⟩
    rwa [UInt32.toNat_ofNat_of_lt' rowSmall, UInt32.toNat_ofNat_of_lt' colSmall]

theorem parse_eq_error_iff {s : String} {e : StoreError} :
    parse s = .error e ↔ e = .invalidKey s ∧ ¬ ∃ a, parse s = .ok a := by
  unfold parse
  cases ofKey? s <;> simp [eq_comm]

theorem parse_exact :
    (∀ s a, parse s = .ok a ↔ Denotes s a.row.toNat a.col.toNat) ∧
    (∀ s, (∃ a, parse s = .ok a) ↔ ∃ row < 2 ^ 32, ∃ col < 2 ^ 32, Denotes s row col) ∧
    (∀ s e, parse s = .error e ↔
      e = .invalidKey s ∧ ¬ ∃ row < 2 ^ 32, ∃ col < 2 ^ 32, Denotes s row col) ∧
    (∀ row col, parse (key ⟨row, col⟩) = .ok ⟨row, col⟩) ∧
    Function.Injective key ∧
    -- The key of what was read is read as the same cell.
    ∀ s, (parse s).bind (fun a => parse a.key) = parse s := by
  refine ⟨fun s a => parse_eq_ok_iff, fun s => exists_parse_iff, fun s e => ?_,
    fun row col => parse_key ⟨row, col⟩, key_injective, fun s => ?_⟩
  · rw [parse_eq_error_iff, exists_parse_iff]
  · cases read : parse s with
    | error e => rfl
    | ok a => exact parse_key a

-- Only the first comma parts a key, and blanks stand outside the sign and the digits only.
example : Address.parse " +007 ,\u2003 0" = .ok ⟨7, 0⟩ ∧
    Address.parse "1,2,3" = .error (.invalidKey "1,2,3") ∧
    Address.parse "+ 1,2" = .error (.invalidKey "+ 1,2") ∧
    Address.parse "1,4294967296" = .error (.invalidKey "1,4294967296") := by
  decide +kernel

end Address

end CellLedger
