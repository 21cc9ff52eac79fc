import SqlAccess.Decimal.Digits
import SqlAccess.Json.Writer
import SqlAccess.Text.Blank
import SqlAccess.Text.Lowercase

/-!
# Decoded rows

A row is a list of named cells in the order of the columns. The catalogs of the engines spell
the same fact in different ways, so a cell is read for the kind of value that is wanted.
-/

namespace SqlAccess

/-- The cells of a row under the names of their columns. -/
abbrev Row := Fields

namespace Row

/-- A cell as text: strings as they are, other values in their compact JSON form, null as
nothing. -/
def text? (row : Row) (column : String) : Option String :=
  match Fields.get? row column with
  | none | some .null => none
  | some (.string s) => some s
  | some other => some other.compact

/-- The greatest integer of 64 signed bits. -/
def greatest : Int := Int64.maxValue.toInt

/-- A cell as an integer of 64 bits: numbers lose their fraction and what lies beyond the range,
text is read in decimal, true is one. -/
def integer? (row : Row) (column : String) : Option Int :=
  match Fields.get? row column with
  | some (.int i) => some (min i greatest)
  | some (.float x) => some x.toInt64Saturating
  | some (.string s) => Decimal.int64Value? (Text.trim s.toList)
  | some (.bool b) => some (if b then 1 else 0)
  | _ => none

/-- A cell as a flag: a truth value, an integer that is not zero, or one of four words. -/
def flag (row : Row) (column : String) : Bool :=
  match Fields.get? row column with
  | some (.bool b) => b
  | some (.int i) => Decimal.fitsSigned 64 i && i != 0
  | some (.string s) => ["yes", "true", "1", "y"].contains (Text.loweredAscii s)
  | _ => false

end Row

end SqlAccess
