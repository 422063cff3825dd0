import CellLedger.Address.Key
import CellLedger.Address.Letters
import Mathlib.Data.List.Induction
import Mathlib.Data.List.Shortlex

/-!
The letters of a column and the name of a cell (`names_unambiguous`). Letters and columns answer to
each other one to one, shorter letters and then earlier ones standing for smaller columns; and since
no letter is a digit, a name falls into letters and digits in one way only.
-/

set_option autoImplicit false

namespace CellLedger.Address

structure IsLetters (cs : List Char) : Prop where
  some : cs ≠ []
  upper : ∀ c ∈ cs, 'A' ≤ c ∧ c ≤ 'Z'

/-- The difference of two words, unless it is below zero. -/
def difference? (m n : UInt32) : Option UInt32 := if n ≤ m then some (m - n) else none

/-- Spells a column on words, from the last letter to the first and in at most so many rounds. There
are no letters if a difference is below zero or the rounds do not suffice. -/
def spell? : Nat → UInt32 → List Char → Option (List Char)
  | 0, _, _ => none
  | rounds + 1, n, spelled =>
    let spelled := letter (n % 26).toNat :: spelled
    if n < 26 then some spelled
    else (difference? (n / 26) 1).bind fun rest => spell? rounds rest spelled

/-- How many columns have at most this many letters. -/
def columnsWithin : Nat → Nat
  | 0 => 0
  | rounds + 1 => 26 * (columnsWithin rounds + 1)

theorem letters_of_small {column : Nat} (small : column < 26) :
    letters column = [letter column] := by
  rw [letters, if_pos small]

theorem letters_of_large {column : Nat} (large : ¬ column < 26) :
    letters column = letters (column / 26 - 1) ++ [letter (column % 26)] := by
  rw [letters, if_neg large]

theorem spell?_eq_letters {rounds : Nat} {n : UInt32} (within : n.toNat < columnsWithin rounds)
    (spelled : List Char) : spell? rounds n spelled = some (letters n.toNat ++ spelled) := by
  induction rounds generalizing n spelled with
  | zero => simp [columnsWithin] at within
  | succ rounds ih =>
    have last : (n % 26).toNat = n.toNat % 26 := by simp
    have small : n < 26 ↔ n.toNat < 26 := by simp [UInt32.lt_iff_toNat_lt]
    rw [spell?, last]
    by_cases single : n.toNat < 26
    · rw [if_pos (small.2 single), letters_of_small single, Nat.mod_eq_of_lt single]
      rfl
    · -- What is left after division counts at least one, so that one can be taken from it.
      have positive : 1 ≤ n.toNat / 26 := by omega
      have order : 1 ≤ n / 26 := by simpa [UInt32.le_iff_toNat_le] using positive
      have rest : (n / 26 - 1).toNat = n.toNat / 26 - 1 := by
        rw [UInt32.toNat_sub_of_le _ _ order]
        simp
      have below : (n / 26 - 1).toNat < columnsWithin rounds := by
        rw [rest]
        rw [columnsWithin] at within
        omega
      rw [if_neg (small.not.2 single), difference?, if_pos order, Option.bind_some, ih below, rest,
        letters_of_large single, List.append_assoc, List.singleton_append]

theorem upper_letter {n : Nat} (h : n < 26) : 'A' ≤ letter n ∧ letter n ≤ 'Z' := by
  have cases : ∀ m, m < 26 → 'A' ≤ letter m ∧ letter m ≤ 'Z' := by decide
  exact cases n h

theorem toNat_of_upper {c : Char} (upper : 'A' ≤ c ∧ c ≤ 'Z') : 65 ≤ c.toNat ∧ c.toNat ≤ 90 := by
  obtain ⟨low, high⟩ := upper
  rw [Char.le_def, UInt32.le_iff_toNat_le] at low high
  exact ⟨low, high⟩

theorem letter_of_upper {c : Char} (upper : 'A' ≤ c ∧ c ≤ 'Z') : letter (c.toNat - 65) = c := by
  have bounds := toNat_of_upper upper
  rw [letter, Nat.add_sub_cancel' bounds.1, Char.ofNat_toNat]

theorem isLetters_letters (column : Nat) : IsLetters (letters column) := by
  refine ⟨letters_ne_nil column, ?_⟩
  induction column using Nat.strongRecOn with
  | ind column ih =>
    by_cases small : column < 26
    · rw [letters_of_small small]
      simpa using upper_letter small
    · rw [letters_of_large (by omega)]
      intro c member
      rcases List.mem_append.1 member with member | member
      · exact ih (column / 26 - 1) (by omega) c member
      · obtain rfl := List.mem_singleton.1 member
        exact upper_letter (Nat.mod_lt _ (by decide))

theorem letters_injective : Function.Injective letters := by
  intro column other same
  have denoted := lettersDenote_letters column
  rw [same, lettersDenote_letters] at denoted
  omega

theorem lettersDenote_concat (cs : List Char) (c : Char) :
    lettersDenote (cs ++ [c]) = lettersDenote cs * 26 + (c.toNat - 64) := by
  simp [lettersDenote]

theorem lettersDenote_pos {cs : List Char} (upper : IsLetters cs) : 0 < lettersDenote cs := by
  obtain ⟨front, c, rfl⟩ := (List.eq_nil_or_concat' cs).resolve_left upper.some
  have bounds := toNat_of_upper (upper.upper c (by simp))
  rw [lettersDenote_concat]
  omega

-- The letters are read from the end, as they are spelled.
theorem letters_lettersDenote {cs : List Char} (upper : IsLetters cs) :
    letters (lettersDenote cs - 1) = cs := by
  induction cs using List.reverseRecOn with
  | nil => exact absurd rfl upper.some
  | append_singleton front c ih =>
    have last : 'A' ≤ c ∧ c ≤ 'Z' := upper.upper c (by simp)
    have bounds := toNat_of_upper last
    rw [lettersDenote_concat]
    by_cases single : front = []
    · subst single
      have column : lettersDenote [] * 26 + (c.toNat - 64) - 1 = c.toNat - 65 := by
        simp only [lettersDenote, List.foldl_nil]
        omega
      rw [column, letters_of_small (by omega), letter_of_upper last]
      rfl
    · have before : IsLetters front :=
        ⟨single, fun d member => upper.upper d (List.mem_append_left _ member)⟩
      have positive := lettersDenote_pos before
      rw [letters_of_large (by omega)]
      have quotient : (lettersDenote front * 26 + (c.toNat - 64) - 1) / 26 - 1 =
          lettersDenote front - 1 := by omega
      have remainder : (lettersDenote front * 26 + (c.toNat - 64) - 1) % 26 = c.toNat - 65 := by
        omega
      rw [quotient, remainder, ih before, letter_of_upper last]

theorem lex_append {front back : List Char} (earlier : List.Lex (· < ·) front back)
    (level : front.length = back.length) (cs ds : List Char) :
    List.Lex (· < ·) (front ++ cs) (back ++ ds) := by
  induction earlier with
  | nil => simp at level
  | cons _ ih => exact .cons (ih (by simpa using level))
  | rel below => exact .rel below

theorem shortlex_concat {front back : List Char} (before : List.Shortlex (· < ·) front back)
    (c d : Char) : List.Shortlex (· < ·) (front ++ [c]) (back ++ [d]) := by
  rcases List.shortlex_def.1 before with shorter | ⟨level, earlier⟩
  · exact .of_length_lt (by simpa using shorter)
  · exact .of_lex (by simp [level]) (lex_append earlier level [c] [d])

theorem letter_lt {m n : Nat} (below : m < n) (small : n < 26) : letter m < letter n := by
  rw [Char.lt_def, UInt32.lt_iff_toNat_lt]
  have first := toNat_letter (n := m) (by omega)
  have second := toNat_letter small
  simp only [Char.toNat] at first second
  omega

theorem letters_shortlex {column other : Nat} (below : column < other) :
    List.Shortlex (· < ·) (letters column) (letters other) := by
  induction other using Nat.strongRecOn generalizing column with
  | ind other ih =>
    by_cases small : other < 26
    · rw [letters_of_small small, letters_of_small (by omega), List.shortlex_singleton_iff]
      exact letter_lt below small
    · rw [letters_of_large small]
      by_cases single : column < 26
      · have longer : 0 < (letters (other / 26 - 1)).length :=
          List.length_pos_of_ne_nil (letters_ne_nil _)
        rw [letters_of_small single]
        exact .of_length_lt (by simpa using longer)
      · rw [letters_of_large single]
        by_cases quotient : column / 26 - 1 < other / 26 - 1
        · exact shortlex_concat (ih (other / 26 - 1) (by omega) quotient) _ _
        · -- All letters but the last are the same.
          have same : column / 26 - 1 = other / 26 - 1 := by omega
          have last : letter (column % 26) < letter (other % 26) :=
            letter_lt (by omega) (Nat.mod_lt _ (by decide))
          rw [same]
          exact .append_left (List.shortlex_singleton_iff _ _ |>.2 last) _

theorem letters_shortlex_iff {column other : Nat} :
    column < other ↔ List.Shortlex (· < ·) (letters column) (letters other) := by
  constructor
  · exact letters_shortlex
  · intro before
    rcases Nat.lt_trichotomy column other with below | rfl | above
    · exact below
    · exact absurd before (asymm_of _ before)
    · exact absurd before (asymm_of _ (letters_shortlex above))

theorem existsUnique_letters_iff {cs : List Char} :
    (∃! column : UInt32, letters column.toNat = cs) ↔
      IsLetters cs ∧ lettersDenote cs ≤ 2 ^ 32 := by
  constructor
  · rintro ⟨column, rfl, _⟩
    refine ⟨isLetters_letters _, ?_⟩
    rw [lettersDenote_letters]
    exact column.toNat_lt
  · rintro ⟨upper, small⟩
    have positive := lettersDenote_pos upper
    have spelled := letters_lettersDenote upper
    refine ⟨UInt32.ofNat (lettersDenote cs - 1), ?_, fun column same => ?_⟩
    · simp only
      rwa [UInt32.toNat_ofNat_of_lt' (by simp only [UInt32.size]; omega)]
    · apply UInt32.toNat_inj.1
      rw [UInt32.toNat_ofNat_of_lt' (by simp only [UInt32.size]; omega)]
      exact letters_injective (same.trans spelled.symm)

theorem isDigit_eq_false_of_upper {c : Char} (upper : 'A' ≤ c ∧ c ≤ 'Z') : c.isDigit = false := by
  have bounds := toNat_of_upper upper
  rw [Bool.eq_false_iff]
  intro digit
  have high : c.toNat ≤ 57 := by
    simp only [Char.isDigit, Bool.and_eq_true, decide_eq_true_eq, UInt32.le_iff_toNat_le] at digit
    exact digit.2
  omega

theorem takeWhile_letters (column row : Nat) :
    (letters column ++ Nat.toDigits 10 row).takeWhile (!·.isDigit) = letters column := by
  have upper := (isLetters_letters column).upper
  rw [List.takeWhile_append_of_pos fun c member => by
    simp [isDigit_eq_false_of_upper (upper c member)]]
  obtain ⟨d, digits, split⟩ := List.exists_cons_of_ne_nil (Nat.toDigits_ne_nil (n := row) (b := 10))
  have digit : d.isDigit = true := isDigit_of_mem_toDigits (n := row) (by simp [split])
  simp [split, digit]

theorem name_injective : Function.Injective name := by
  intro a b same
  have text : letters a.col.toNat ++ Nat.toDigits 10 (a.row.toNat + 1) =
      letters b.col.toNat ++ Nat.toDigits 10 (b.row.toNat + 1) := String.ofList_injective same
  have front := congrArg (List.takeWhile (!·.isDigit)) text
  rw [takeWhile_letters, takeWhile_letters] at front
  rw [front] at text
  have back := congrArg (Nat.ofDigitChars 10 · 0) (List.append_cancel_left text)
  simp only [Nat.ofDigitChars_ten_toDigits] at back
  have col : a.col = b.col := UInt32.toNat_inj.1 (letters_injective front)
  have row : a.row = b.row := UInt32.toNat_inj.1 (by omega)
  cases a
  cases b
  simp_all

theorem toNat_row_succ (a : Address) : (a.row.toUInt64 + 1).toNat = a.row.toNat + 1 := by
  have small := a.row.toNat_lt
  rw [UInt64.toNat_add, UInt32.toNat_toUInt64]
  exact Nat.mod_eq_of_lt (by simp; omega)

theorem names_unambiguous :
    -- Seven rounds suffice for every column, and no difference is below zero.
    (∀ column, spell? 7 column [] = some (letters column.toNat)) ∧
    (∀ column, IsLetters (letters column) ∧ lettersDenote (letters column) = column + 1) ∧
    Function.Injective letters ∧
    (∀ cs, (∃! column : UInt32, letters column.toNat = cs) ↔
      IsLetters cs ∧ lettersDenote cs ≤ 2 ^ 32) ∧
    (∀ column other, column < other ↔
      (letters column).length < (letters other).length ∨
        (letters column).length = (letters other).length ∧ letters column < letters other) ∧
    -- The row is counted from one in twice as many bits.
    (∀ a : Address, (a.row.toUInt64 + 1).toNat = a.row.toNat + 1 ∧
      a.name = String.ofList
        (letters a.col.toNat ++ Nat.toDigits 10 (a.row.toUInt64 + 1).toNat)) ∧
    Function.Injective name := by
  have enough (column : UInt32) : column.toNat < columnsWithin 7 :=
    Nat.lt_trans column.toNat_lt (by decide)
  refine ⟨fun column => ?_, fun column => ⟨isLetters_letters column, lettersDenote_letters column⟩,
    letters_injective, fun cs => existsUnique_letters_iff, fun column other => ?_, fun a => ?_,
    name_injective⟩
  · rw [spell?_eq_letters (enough column), List.append_nil]
  · rw [letters_shortlex_iff, List.shortlex_def]
    rfl
  · rw [toNat_row_succ]
    exact ⟨rfl, rfl⟩

-- Where a letter is added, and the last column of all, which needs the seventh round.
example : spell? 7 25 [] = some ['Z'] ∧ spell? 7 26 [] = some ['A', 'A'] ∧
    spell? 7 701 [] = some ['Z', 'Z'] ∧ spell? 7 702 [] = some ['A', 'A', 'A'] ∧
    spell? 7 4294967295 [] = some ['M', 'W', 'L', 'Q', 'K', 'W', 'V'] ∧
    spell? 6 4294967295 [] = none := by
  decide

end CellLedger.Address
