import SqlAccess.Json.Decode
import SqlAccess.Param
import SqlAccess.Proofs.Decimal.Digits

/-!
# Parameters without a tag

The serialized form of a parameter does not say which kind of value it is. The kinds are tried in a
fixed order, and the first one that takes the form decides. A cell of a decoded row becomes a
parameter in another way, by a look at what kind of JSON value it is. Main statement: the two agree
on every value that is no container; a container is refused by the first and made its text by the
second.

The order matters for numbers and for texts. Integers come before floats, so an integer becomes a
float only where 64 signed bits do not hold it, and a float stays one even when it has no fraction.
Texts come before bytes, so no text is ever decoded. How the written form of bytes is decoded is
therefore left open here: the statement holds for every way to do it.
-/

namespace SqlAccess

namespace Json

/-- An array or an object. -/
def isContainer : Json → Bool
  | .array _ | .object _ => true
  | _ => false

/-- Nothing but null. -/
def null? : Json → Option Unit
  | .null => some ()
  | _ => none

/-- A number as a float; an integer becomes the nearest one. -/
def float? : Json → Option Binary64
  | .int i => some (Binary64.ofInt i)
  | .float x => some x
  | _ => none

/-- The range of 64 signed bits. -/
theorem fits_signed_iff (i : Int) :
    Decimal.fitsSigned 64 i = true ↔
      Int64.minValue.toInt ≤ i ∧ i ≤ Int64.maxValue.toInt := by
  have least : Int64.minValue.toInt = -9223372036854775808 := by decide
  have greatest : Int64.maxValue.toInt = 9223372036854775807 := by decide
  have bounds : Decimal.fitsSigned 64 i = true ↔
      i < 9223372036854775808 ∧ -9223372036854775808 ≤ i := by
    simp [Decimal.fitsSigned]
  rw [bounds, least, greatest]
  omega

/-- An integer is taken where 64 signed bits hold it. -/
theorem int64?_int (i : Int) :
    int64? (.int i) = if Decimal.fitsSigned 64 i then some (Int64.ofInt i) else none := by
  by_cases fits : Decimal.fitsSigned 64 i = true
  · rw [if_pos fits, int64?, intIn?, if_pos ((fits_signed_iff i).mp fits), Option.map_some]
  · rw [if_neg fits, int64?, intIn?, if_neg (mt (fits_signed_iff i).mpr fits), Option.map_none]

end Json

namespace Param

/-- The kinds of values in the order in which they are tried, each with the forms that it takes. -/
def kinds (decode : String → Option (List UInt8)) : List (Json → Option Param) :=
  [fun json => json.null?.map fun _ => .null,
   fun json => json.bool?.map .bool,
   fun json => json.int64?.map .int,
   fun json => json.float?.map .float,
   fun json => json.text?.map .string,
   fun json => (json.text?.bind decode).map .bytes]

/-- The parameter of the first kind that takes a form. -/
def untagged? (decode : String → Option (List UInt8)) (json : Json) : Option Param :=
  (kinds decode).findSome? fun read => read json

variable (decode : String → Option (List UInt8))

/-- An integer is taken as an integer where it can be, and as a float otherwise. -/
theorem untagged?_int (i : Int) : untagged? decode (.int i) = some (ofInt i) := by
  by_cases fits : Decimal.fitsSigned 64 i = true
  · have taken : (Json.int i).int64? = some (Int64.ofInt i) := by
      rw [Json.int64?_int, if_pos fits]
    simp [untagged?, kinds, Json.null?, Json.bool?, taken, ofInt, fits]
  · have refused : (Json.int i).int64? = none := by
      rw [Json.int64?_int, if_neg fits]
    simp [untagged?, kinds, Json.null?, Json.bool?, refused, Json.float?, ofInt, fits]

/-- A container is of no kind. -/
theorem untagged?_container {json : Json} (container : json.isContainer = true) :
    untagged? decode json = none := by
  cases json with
  | array items => rfl
  | object fields => rfl
  | null | bool _ | int _ | float _ | string _ => cases container

/-- The serialized form of a parameter is read as the first kind that takes it. -/
theorem of_json?_eq_untagged (json : Json) : ofJson? json = untagged? decode json := by
  cases json with
  | int i => exact (untagged?_int decode i).symm
  | null | bool _ | float _ | string _ | array _ | object _ => rfl

/-- A cell is read as the form of a parameter is, unless it is a container: for every JSON value and
every way to decode bytes. A container is no parameter, and as a cell it becomes its compact text.

Proof: by cases on the JSON value. The attempts are made in order, and for each kind of value it is
settled which is the first to succeed; for a container all of them fail. -/
theorem of_cell_reads_alike (json : Json) :
    ofJson? json = untagged? decode json ∧
      if json.isContainer then ofJson? json = none ∧ ofCell json = .string json.compact
      else ofJson? json = some (ofCell json) := by
  refine ⟨of_json?_eq_untagged decode json, ?_⟩
  split
  · rename_i container
    refine ⟨(of_json?_eq_untagged decode json).trans (untagged?_container decode container), ?_⟩
    cases json with
    | array _ | object _ => rfl
    | null | bool _ | int _ | float _ | string _ => cases container
  · rename_i scalar
    cases json with
    | null | bool _ | int _ | float _ | string _ => rfl
    | array _ | object _ => exact absurd rfl scalar

end Param

end SqlAccess
