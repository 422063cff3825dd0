import CellLedger.Address.Key
import CellLedger.Address.Letters
import CellLedger.Text.Quoted

/-!
Why a store refuses an access.
-/

set_option autoImplicit false

namespace CellLedger

inductive StoreError where
  | readFailed (address : Address) (reason : String)
  | writeRejected (address : Address) (reason : String)
  | invalidKey (key : String)
  deriving DecidableEq, Repr

def StoreError.message : StoreError → String
  | .readFailed address reason => "read failed at " ++ address.name ++ ": " ++ reason
  | .writeRejected address reason => "write rejected at " ++ address.name ++ ": " ++ reason
  | .invalidKey key => "invalid address key: " ++ Text.quoted key

def Address.parse (key : String) : Except StoreError Address :=
  match ofKey? key with
  | some address => .ok address
  | none => .error (.invalidKey key)

end CellLedger
