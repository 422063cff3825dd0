import CellLedger.Duration

/-!
Settings of a sheet and of a history.
-/

set_option autoImplicit false

namespace CellLedger

structure SheetConfig where
  maxOperations : Nat := 100
  maxCells : Nat := 1000000
  /-- Whether the failure of one operation undoes its whole batch. -/
  autoRollback : Bool := true
  validateFirst : Bool := true
  timeout : Duration := .ofSeconds 300
  /-- Advisory: operations run one after another. -/
  parallel : Bool := false
  /-- Advisory: operations run one after another. -/
  workers : Nat := 4
  deriving DecidableEq, Repr, Inhabited

structure HistoryConfig where
  maxActions : Nat := 100
  /-- Whether recording also evicts actions that are too old. -/
  autoEvict : Bool := true
  maxAge : Duration := .ofSeconds 3600
  /-- Reserved. -/
  compress : Bool := false
  validateUndo : Bool := true
  deriving DecidableEq, Repr, Inhabited

/-- How many undone actions are kept: half of the history, but at least one. -/
def HistoryConfig.maxUndone (c : HistoryConfig) : Nat := max 1 (c.maxActions / 2)

def boolText (b : Bool) : String := if b then "true" else "false"

def SheetConfig.text (c : SheetConfig) : String :=
  "BatchConfig \x7b max_operations_per_batch: " ++ toString c.maxOperations ++
    ", max_cells_per_batch: " ++ toString c.maxCells ++
    ", auto_rollback_on_error: " ++ boolText c.autoRollback ++
    ", validate_before_execution: " ++ boolText c.validateFirst ++
    ", batch_timeout: " ++ c.timeout.text ++
    ", enable_parallel_processing: " ++ boolText c.parallel ++
    ", worker_threads: " ++ toString c.workers ++ " \x7d"

def HistoryConfig.text (c : HistoryConfig) : String :=
  "HistoryConfig \x7b max_history_size: " ++ toString c.maxActions ++
    ", auto_cleanup: " ++ boolText c.autoEvict ++
    ", max_action_age: " ++ c.maxAge.text ++
    ", compress_actions: " ++ boolText c.compress ++
    ", validate_undo: " ++ boolText c.validateUndo ++ " \x7d"

end CellLedger
