import SqlAccess.Json

/-!
# Reading records from JSON

The rules by which serialized records are read. A record is an object whose unknown
fields are ignored, or an array of its fields in order with nothing left over. A field
that may be absent is absent also when it is null. A bare name stands for itself,
alone or as the only field of an object that holds null.
-/

namespace SqlAccess.Json

/-- The parts of a record: by name, or by place. -/
inductive Record where
  | named (fields : Fields)
  | placed (items : List Json)

/-- The parts of a record with a number of fields; places beyond them are refused. -/
def record? (size : Nat) : Json → Option Record
  | .object fields => some (.named fields)
  | .array items => if items.length ≤ size then some (.placed items) else none
  | _ => none

/-- The value of a field, by its name or its place. -/
def Record.get? (record : Record) (place : Nat) (name : String) : Option Json :=
  match record with
  | .named fields => fields.get? name
  | .placed items => items[place]?

/-- A field that must be there. -/
def Record.required {α : Type} (record : Record) (place : Nat) (name : String)
    (read : Json → Option α) : Option α :=
  (record.get? place name).bind read

/-- A value that may be null. -/
def nullable {α : Type} (read : Json → Option α) : Json → Option (Option α)
  | .null => some none
  | value => (read value).map some

/-- A field that may be null, and absent where fields have names. -/
def Record.optional {α : Type} (record : Record) (place : Nat) (name : String)
    (read : Json → Option α) : Option (Option α) :=
  match record, record.get? place name with
  | _, some value => nullable read value
  | .named _, none => some none
  | .placed _, none => none

/-- A field that has a value of its own when it is absent. -/
def Record.defaulted {α : Type} (record : Record) (place : Nat) (name : String) (value : α)
    (read : Json → Option α) : Option α :=
  match record.get? place name with
  | some written => read written
  | none => some value

/-- The name that stands for one of several alternatives. -/
def tag? : Json → Option String
  | .string name => some name
  | .object [(name, .null)] => some name
  | _ => none

/-- A truth value. -/
def bool? : Json → Option Bool
  | .bool value => some value
  | _ => none

/-- An integer in a range; floats are none. -/
def intIn? (least most : Int) : Json → Option Int
  | .int i => if least ≤ i ∧ i ≤ most then some i else none
  | _ => none

/-- An integer of 64 signed bits. -/
def int64? (value : Json) : Option Int64 :=
  (intIn? Int64.minValue.toInt Int64.maxValue.toInt value).map Int64.ofInt

/-- An integer of 32 signed bits. -/
def int32? (value : Json) : Option Int32 :=
  (intIn? Int32.minValue.toInt Int32.maxValue.toInt value).map Int32.ofInt

/-- An integer of 64 unsigned bits. -/
def uint64? (value : Json) : Option UInt64 :=
  (intIn? 0 ((UInt64.size : Int) - 1) value).map fun i => UInt64.ofNat i.toNat

/-- A list of values. -/
def list? {α : Type} (read : Json → Option α) (value : Json) : Option (List α) :=
  value.items?.bind fun items => items.mapM read

end SqlAccess.Json
