import SqlAccess.Bytes.Base64
import SqlAccess.Json

/-!
# Decoded cells

The JSON values that all engines share: a number that is not finite becomes its text, since
JSON has no such number, and bytes become Base64 text.
-/

namespace SqlAccess.Cell

/-- A floating-point number. -/
def ofFloat (x : Binary64) : Json := if x.isFinite then .float x else .string x.statementText

/-- A text. -/
def ofText (s : List Char) : Json := .string (String.ofList s)

/-- Bytes. -/
def ofBytes (bytes : List UInt8) : Json := ofText (Bytes.base64 bytes)

end SqlAccess.Cell
