import CellLedger.Json.Reader
import Mathlib.Tactic.SplitIfs

/-!
Quoted strings read back: every character is escaped to a piece that stands for it alone
(`exists_piece`), so that reading what `writeString` wrote returns the string and what follows it.
-/

set_option autoImplicit false

namespace CellLedger.Json

theorem controlEscape_eq {n : Nat} (control : n < 0x20) :
    List.replicate (4 - (Nat.toDigits 16 n).length) '0' ++ Nat.toDigits 16 n =
        ['0', '0', Nat.digitChar (n / 16), Nat.digitChar (n % 16)] ∧
      Text.hexValue? ['0', '0', Nat.digitChar (n / 16), Nat.digitChar (n % 16)] = some n := by
  have all : ∀ m < 0x20,
      List.replicate (4 - (Nat.toDigits 16 m).length) '0' ++ Nat.toDigits 16 m =
          ['0', '0', Nat.digitChar (m / 16), Nat.digitChar (m % 16)] ∧
        Text.hexValue? ['0', '0', Nat.digitChar (m / 16), Nat.digitChar (m % 16)] = some m := by
    decide
  exact all n control

theorem readPieces_quote (rest : List Char) : readPieces ('"' :: rest) = some ([], rest) := by
  rw [readPieces.eq_def]
  rfl

theorem readPieces_unit {a b c d : Char} {n : Nat} (value : Text.hexValue? [a, b, c, d] = some n)
    (rest : List Char) : readPieces ('\\' :: 'u' :: a :: b :: c :: d :: rest) =
      (readPieces rest).map fun r => (.unit n :: r.1, r.2) := by
  rw [readPieces.eq_def]
  simp [value]

/-- The piece is read from these characters and stands for the one character. -/
structure Spells (escape : List Char) (piece : Piece) (c : Char) : Prop where
  read : ∀ rest, readPieces (escape ++ rest) =
    (readPieces rest).map fun r => (piece :: r.1, r.2)
  join : ∀ pieces, joinPieces (piece :: pieces) = (joinPieces pieces).map (c :: ·)

theorem spells_short {e c d : Char} (short : unescape? e = some d) (same : c = d) :
    Spells ['\\', e] (.char c) c where
  read rest := by
    subst same
    have other : e ≠ 'u' := by
      rintro rfl
      simp [unescape?] at short
    rw [readPieces.eq_def]
    simp [short, other]
  join pieces := by simp [joinPieces]

theorem spells_control {c : Char} (control : c.toNat < 0x20) :
    Spells (controlEscape c) (.unit c.toNat) c where
  read rest := by
    obtain ⟨digits, value⟩ := controlEscape_eq control
    have written : controlEscape c ++ rest = '\\' :: 'u' :: '0' :: '0' ::
        Nat.digitChar (c.toNat / 16) :: Nat.digitChar (c.toNat % 16) :: rest := by
      simp [controlEscape, digits]
    rw [written, readPieces_unit value]
  join pieces := by
    have high : isHighSurrogate c.toNat = false := by
      simp [isHighSurrogate]
      omega
    have low : isLowSurrogate c.toNat = false := by
      simp [isLowSurrogate]
      omega
    rw [joinPieces.eq_def]
    simp [high, low, Char.ofNat_toNat]

theorem spells_plain {c : Char} (quote : c ≠ '"') (backslash : c ≠ '\\')
    (printed : ¬ c.toNat < 0x20) : Spells [c] (.char c) c where
  read rest := by
    rw [readPieces.eq_def]
    simp [quote, backslash, printed]
  join pieces := by simp [joinPieces]

theorem exists_piece (c : Char) : ∃ piece, Spells (escapeChar c) piece c := by
  unfold escapeChar
  split_ifs with quote backslash newline carriage tab backspace feed control
  · exact ⟨_, spells_short rfl quote⟩
  · exact ⟨_, spells_short rfl backslash⟩
  · exact ⟨_, spells_short rfl newline⟩
  · exact ⟨_, spells_short rfl carriage⟩
  · exact ⟨_, spells_short rfl tab⟩
  · exact ⟨_, spells_short rfl backspace⟩
  · exact ⟨_, spells_short rfl feed⟩
  · exact ⟨_, spells_control control⟩
  · exact ⟨_, spells_plain quote backslash control⟩

theorem readPieces_escaped (cs rest : List Char) :
    ∃ pieces, readPieces (cs.flatMap escapeChar ++ '"' :: rest) = some (pieces, rest) ∧
      joinPieces pieces = some cs := by
  induction cs with
  | nil => exact ⟨[], readPieces_quote rest, rfl⟩
  | cons c cs ih =>
    obtain ⟨pieces, read, join⟩ := ih
    obtain ⟨piece, spells⟩ := exists_piece c
    refine ⟨piece :: pieces, ?_, ?_⟩
    · rw [List.flatMap_cons, List.append_assoc, spells.read, read]
      rfl
    · rw [spells.join, join]
      rfl

/-- A text reads back, and so does a string that is none. -/
theorem readString_writeString (s : Option String) (rest : List Char) :
    ∃ body, writeString s ++ rest = '"' :: body ∧ readString body = some (s, rest) := by
  cases s with
  | some s =>
    obtain ⟨pieces, read, join⟩ := readPieces_escaped s.toList rest
    refine ⟨s.toList.flatMap escapeChar ++ '"' :: rest, by simp [writeString, quote], ?_⟩
    simp [readString, read, join]
  | none =>
    refine ⟨'\\' :: 'u' :: 'd' :: '8' :: '0' :: '0' :: '"' :: rest, rfl, ?_⟩
    rw [readString, readPieces_unit (n := 0xD800) (by decide), readPieces_quote]
    rfl

end CellLedger.Json
