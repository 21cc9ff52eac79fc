import SqlAccess.Bytes.Base64
import SqlAccess.Json.Writer
import SqlAccess.Text.Diagnostic

/-!
# Statement parameters

A value that is bound to a placeholder. Its serialized form shows no tag: bytes are
written as Base64 text and numbers that are not finite as null, so these do not come
back as they were; every other value does.
-/

namespace SqlAccess

/-- A parameter value. -/
inductive Param where
  | null
  | bool (value : Bool)
  | int (value : Int64)
  | float (value : Binary64)
  | string (value : String)
  | bytes (value : List UInt8)
deriving DecidableEq, Repr, Inhabited

namespace Param

/-- The name of the kind of value. -/
def typeName : Param → String
  | .null => "null"
  | .bool _ => "bool"
  | .int _ => "int"
  | .float _ => "float"
  | .string _ => "string"
  | .bytes _ => "bytes"

/-- True for the value NULL. -/
def isNull : Param → Bool
  | .null => true
  | _ => false

/-- The serialized form. -/
def toJson : Param → Json
  | .null => .null
  | .bool value => .bool value
  | .int value => .int value.toInt
  | .float value => if value.isFinite then .float value else .null
  | .string value => .string value
  | .bytes value => .string (String.ofList (Bytes.base64 value))

/-- The integer parameter of a JSON integer, where 64 signed bits hold it; else the nearest
float. -/
def ofInt (value : Int) : Param :=
  if Decimal.fitsSigned 64 value then .int (Int64.ofInt value) else .float (Binary64.ofInt value)

/-- The parameter of a serialized form; containers are none. -/
def ofJson? : Json → Option Param
  | .null => some .null
  | .bool value => some (.bool value)
  | .int value => some (ofInt value)
  | .float value => some (.float value)
  | .string value => some (.string value)
  | .array _ | .object _ => none

/-- The parameter that carries a decoded cell into the next request. A container becomes its
compact text. -/
def ofCell : Json → Param
  | .null => .null
  | .bool value => .bool value
  | .int value => ofInt value
  | .float value => .float value
  | .string value => .string value
  | container => .string container.compact

/-- How diagnostics show a parameter. Long values are shown by their size in bytes. -/
def diagnostic : Param → String
  | .null => "Null"
  | .bool value => "Bool(" ++ (if value then "true" else "false") ++ ")"
  | .int value => "Int(" ++ Decimal.intText value.toInt ++ ")"
  | .float value => "Float(" ++ value.diagnosticText ++ ")"
  | .string value =>
    if value.utf8ByteSize > 64 then "string[" ++ Decimal.natText value.utf8ByteSize ++ "]"
    else "String(" ++ Text.diagnosticText value ++ ")"
  | .bytes value => "bytes[" ++ Decimal.natText value.length ++ "]"

/-- How diagnostics show the parameters of a statement. -/
def diagnostics (params : List Param) : String :=
  "[" ++ String.intercalate ", " (params.map diagnostic) ++ "]"

end Param

end SqlAccess
