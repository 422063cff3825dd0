import CellLedger.Address

/-!
The spreadsheet name of a cell: its column in letters, then its row counted from one. Letters are
digits of base twenty-six from `A` for one to `Z` for twenty-six, so that there is no zero digit;
`lettersDenote` reads them back.
-/

set_option autoImplicit false

namespace CellLedger.Address

def letter (n : Nat) : Char := Char.ofNat (65 + n)

/-- Column zero is `A`, column twenty-five `Z`, column twenty-six `AA`. -/
def letters (column : Nat) : List Char :=
  if column < 26 then [letter column]
  else letters (column / 26 - 1) ++ [letter (column % 26)]
termination_by column
decreasing_by omega

/-- What letters count, `A` being one. -/
def lettersDenote (cs : List Char) : Nat :=
  cs.foldl (fun n c => n * 26 + (c.toNat - 64)) 0

theorem letters_ne_nil (column : Nat) : letters column ≠ [] := by
  rw [letters]
  split <;> simp

theorem toNat_letter {n : Nat} (h : n < 26) : (letter n).toNat = 65 + n := by
  have cases : ∀ m, m < 26 → (letter m).toNat = 65 + m := by decide
  exact cases n h

theorem lettersDenote_letters (column : Nat) : lettersDenote (letters column) = column + 1 := by
  induction column using Nat.strongRecOn with
  | ind column ih =>
    rw [letters]
    split
    · next small => simp only [lettersDenote, List.foldl, toNat_letter small]; omega
    · next large =>
      have below := ih (column / 26 - 1) (by omega)
      simp only [lettersDenote, List.foldl_append, List.foldl] at below ⊢
      rw [below, toNat_letter (Nat.mod_lt _ (by decide))]
      omega

def name (a : Address) : String :=
  String.ofList (letters a.col.toNat ++ Nat.toDigits 10 (a.row.toNat + 1))

end CellLedger.Address
