/-!
White space: the characters with the Unicode property White_Space, and trimming of both ends.
-/

set_option autoImplicit false

namespace CellLedger.Text

/-- The 25 characters with the property White_Space. -/
def isBlank (c : Char) : Bool :=
  let n := c.toNat
  (9 ≤ n && n ≤ 13) || n = 0x20 || n = 0x85 || n = 0xA0 || n = 0x1680 ||
    (0x2000 ≤ n && n ≤ 0x200A) || n = 0x2028 || n = 0x2029 || n = 0x202F || n = 0x205F ||
    n = 0x3000

def trim (cs : List Char) : List Char :=
  ((cs.dropWhile isBlank).reverse.dropWhile isBlank).reverse

theorem trim_eq_self {cs : List Char} (h : ∀ c ∈ cs, isBlank c = false) : trim cs = cs := by
  have keep : ∀ {ds : List Char}, (∀ d ∈ ds, isBlank d = false) → ds.dropWhile isBlank = ds := by
    intro ds clear
    cases ds with
    | nil => rfl
    | cons d rest => simp [List.dropWhile, clear d (by simp)]
  rw [trim, keep h, keep (by simpa using h), List.reverse_reverse]

end CellLedger.Text
