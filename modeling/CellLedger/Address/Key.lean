import CellLedger.Address
import CellLedger.Text.Blank

/-!
The key of a cell: row and column in decimal with a comma between. Reading is laxer than writing:
each side may stand between blanks, begin with one plus sign and have leading zeros.
-/

set_option autoImplicit false

namespace CellLedger.Address

def keyChars (a : Address) : List Char :=
  Nat.toDigits 10 a.row.toNat ++ ',' :: Nat.toDigits 10 a.col.toNat

def key (a : Address) : String := String.ofList a.keyChars

def dropPlus : List Char → List Char
  | '+' :: rest => rest
  | cs => cs

/-- One side of a key: blanks around at least one digit, and a value below `2 ^ 32`. -/
def readIndex? (cs : List Char) : Option UInt32 :=
  let digits := dropPlus (Text.trim cs)
  let n := Nat.ofDigitChars 10 digits 0
  if digits ≠ [] ∧ digits.all Char.isDigit = true ∧ n < UInt32.size then
    some (UInt32.ofNat n)
  else none

def readKey? (cs : List Char) : Option Address :=
  match cs.dropWhile (· ≠ ',') with
  | [] => none
  | _ :: col => do
    let row ← readIndex? (cs.takeWhile (· ≠ ','))
    let col ← readIndex? col
    some ⟨row, col⟩

def ofKey? (s : String) : Option Address := readKey? s.toList

theorem isDigit_of_mem_toDigits {n : Nat} {c : Char} (h : c ∈ Nat.toDigits 10 n) :
    c.isDigit = true :=
  Nat.isDigit_of_mem_toDigits (by decide) (by decide) h

theorem isBlank_of_isDigit {c : Char} (h : c.isDigit = true) : Text.isBlank c = false := by
  have bounds : 48 ≤ c.toNat ∧ c.toNat ≤ 57 := by
    simp only [Char.isDigit, Bool.and_eq_true, decide_eq_true_eq, ge_iff_le, UInt32.le_iff_toNat_le]
      at h
    exact h
  simp only [Text.isBlank]
  simp
  omega

theorem dropPlus_eq_self {cs : List Char} (decimal : ∀ c ∈ cs, c.isDigit = true) :
    dropPlus cs = cs := by
  unfold dropPlus
  split
  · exact absurd (decimal '+' (by simp)) (by decide)
  · rfl

theorem readIndex?_toDigits (n : UInt32) : readIndex? (Nat.toDigits 10 n.toNat) = some n := by
  have trimmed : Text.trim (Nat.toDigits 10 n.toNat) = Nat.toDigits 10 n.toNat :=
    Text.trim_eq_self fun c h => isBlank_of_isDigit (isDigit_of_mem_toDigits h)
  have digits : (Nat.toDigits 10 n.toNat).all Char.isDigit = true :=
    List.all_eq_true.2 fun c h => isDigit_of_mem_toDigits h
  have unsigned : dropPlus (Nat.toDigits 10 n.toNat) = Nat.toDigits 10 n.toNat :=
    dropPlus_eq_self fun c h => isDigit_of_mem_toDigits h
  simp only [readIndex?, trimmed, unsigned, Nat.ofDigitChars_ten_toDigits]
  rw [if_pos ⟨Nat.toDigits_ne_nil, digits, n.toNat_lt⟩]
  simp

theorem span_comma {left : List Char} (clear : ',' ∉ left) (right : List Char) :
    (left ++ ',' :: right).takeWhile (· ≠ ',') = left ∧
      (left ++ ',' :: right).dropWhile (· ≠ ',') = ',' :: right := by
  have plain : ∀ c ∈ left, decide (c ≠ ',') = true :=
    fun c member => decide_eq_true fun comma => clear (comma ▸ member)
  rw [List.takeWhile_append_of_pos plain, List.dropWhile_append_of_pos plain]
  simp

theorem readKey?_keyChars (a : Address) : readKey? a.keyChars = some a := by
  have clear : ',' ∉ Nat.toDigits 10 a.row.toNat :=
    fun member => absurd (isDigit_of_mem_toDigits member) (by decide)
  obtain ⟨row, col⟩ := span_comma clear (Nat.toDigits 10 a.col.toNat)
  simp only [readKey?, keyChars, row, col, readIndex?_toDigits]
  rfl

theorem ofKey?_key (a : Address) : ofKey? a.key = some a := by
  rw [ofKey?, key, String.toList_ofList, readKey?_keyChars]

end CellLedger.Address
