import SqlAccess.Binary64

/-!
# JSON values

Numbers are integers or binary floating-point numbers, told apart by how they were
written. An object is a list of fields in the order in which their names first
came; writing to a name that is there replaces its value in place.
-/

namespace SqlAccess

/-- A JSON value. Readers make integers from -2^63 up to 2^64 - 1 only; what lies beyond is a
float. -/
inductive Json where
  | null
  | bool (value : Bool)
  | int (value : Int)
  | float (value : Binary64)
  | string (value : String)
  | array (items : List Json)
  | object (fields : List (String × Json))
deriving Inhabited, Repr

/-- Named values in order of arrival. -/
abbrev Fields := List (String × Json)

namespace Fields

/-- The value under a name. -/
def get? (fields : Fields) (name : String) : Option Json :=
  (fields.find? fun field => field.1 == name).map (·.2)

/-- Write under a name: in place when the name is there, else at the end. -/
def put (fields : Fields) (name : String) (value : Json) : Fields :=
  match fields with
  | [] => [(name, value)]
  | field :: rest =>
    if field.1 == name then (name, value) :: rest else field :: put rest name value

/-- Fields from written pairs: a repeated name keeps its first place and its last value. -/
def ofPairs (pairs : List (String × Json)) : Fields :=
  pairs.foldl (fun fields pair => put fields pair.1 pair.2) []

/-- The value written is read back. -/
theorem get?_put_self (fields : Fields) (name : String) (value : Json) :
    (fields.put name value).get? name = some value := by
  induction fields with
  | nil => simp [put, get?]
  | cons field rest inductionHypothesis =>
    by_cases same : field.1 == name
    · simp [put, get?, same]
    · simp only [get?] at inductionHypothesis
      simpa [put, get?, same] using inductionHypothesis

end Fields

namespace Json

/-- The field of an object. -/
def get? : Json → String → Option Json
  | .object fields, name => Fields.get? fields name
  | _, _ => none

/-- The text of a string. -/
def text? : Json → Option String
  | .string s => some s
  | _ => none

/-- The items of an array. -/
def items? : Json → Option (List Json)
  | .array items => some items
  | _ => none

/-- The fields of an object. -/
def fields? : Json → Option Fields
  | .object fields => some fields
  | _ => none

/-- A present value, or null. -/
def ofOption : Option Json → Json
  | none => .null
  | some value => value

end Json

end SqlAccess
