import CellLedger.Operation

/-!
Ready-made contents and selections.
-/

set_option autoImplicit false

namespace CellLedger

namespace Cells

def ofTexts (texts : List (Address × String)) : Cells :=
  .ofList (texts.map fun t => (t.1, .text t.2))

/-- Every cell of a block at the top left holds what the function says for its row and column. -/
def filled (rows cols : Nat) (value : Address → Value) : Cells :=
  .ofList ((Selection.rectangle (List.range rows) (List.range cols)).map fun a => (a, value a))

end Cells

def Selection.diagonal : Selection := .ofList [⟨0, 0⟩, ⟨1, 1⟩, ⟨2, 2⟩]

def Cells.initialDiagonal : Cells := .ofTexts (Selection.diagonal.cells.map fun a => (a, "initial"))

end CellLedger
