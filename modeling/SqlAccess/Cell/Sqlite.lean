import SqlAccess.Cell
import SqlAccess.Param
import SqlAccess.Text.Lowercase

/-!
# SQLite cells

SQLite decides the kind of a value by value, not by column. The declared type of a column
matters for one thing only: integers of a column declared as a truth value are truth values.
-/

namespace SqlAccess.Cell

/-- A value as SQLite stores it. -/
inductive Stored where
  | null
  | integer (value : Int64)
  | real (value : Binary64)
  | text (value : String)
  | blob (value : List UInt8)
deriving DecidableEq, Repr

namespace Stored

/-- The value that a parameter is stored as. Truth values are integers, and what is not a number
is null. -/
def ofParam : Param → Stored
  | .null => .null
  | .bool value => .integer (if value then 1 else 0)
  | .int value => .integer value
  | .float value => if value.isNaN then .null else .real value
  | .string value => .text value
  | .bytes value => .blob value

/-- True for the declared types of truth values. -/
def isFlagType (declared : String) : Bool :=
  ["boolean", "bool"].contains (Text.loweredAscii declared)

/-- The cell of a stored value; an expression has no declared type. -/
def toJson (declared : Option String) : Stored → Json
  | .null => .null
  | .integer value =>
    if declared.any isFlagType then .bool (value != 0) else .int value.toInt
  | .real value => ofFloat value
  | .text value => .string value
  | .blob value => ofBytes value

end Stored

end SqlAccess.Cell
