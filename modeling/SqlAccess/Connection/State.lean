import SqlAccess.Json.Decode

/-!
# The state of a connection handle

The three states that an observer can tell apart.
-/

namespace SqlAccess

/-- Whether a connection is held, and whether a transaction is open on it. -/
inductive ConnectionState where
  | closed
  | opened
  | inTransaction
deriving DecidableEq, Repr, Inhabited

namespace ConnectionState

/-- True when a connection is held. -/
def isConnected : ConnectionState → Bool
  | .closed => false
  | .opened | .inTransaction => true

/-- The name in serialized values. -/
def tag : ConnectionState → String
  | .closed => "closed"
  | .opened => "open"
  | .inTransaction => "in_transaction"

/-- The name in diagnostics. -/
def diagnostic : ConnectionState → String
  | .closed => "Closed"
  | .opened => "Open"
  | .inTransaction => "InTransaction"

/-- The state of a serialized name. -/
def ofTag? : String → Option ConnectionState
  | "closed" => some .closed
  | "open" => some .opened
  | "in_transaction" => some .inTransaction
  | _ => none

/-- The state of a serialized form. -/
def ofJson? (value : Json) : Option ConnectionState := value.tag?.bind ofTag?

/-- Every serialized name reads back as its state. -/
theorem of_tag?_tag (state : ConnectionState) : ofTag? state.tag = some state := by
  cases state <;> rfl

end ConnectionState

end SqlAccess
