import SqlAccess.Error
import SqlAccess.Json.Decode
import SqlAccess.Param
import SqlAccess.Text.Blank

/-!
# Page requests

Which rows of a table are wanted: all of them, the rows from a position on in the
order of a key, or the rows behind a key. Positions and limits are words of 64 bits;
the number of rows to skip is computed without wrapping and refused where a word
cannot hold it.
-/

namespace SqlAccess.Page

/-- How a page is selected. -/
inductive Mode where
  /-- All rows, in no order. -/
  | none
  /-- By skipping rows. -/
  | limitOffset
  /-- By comparing a key. -/
  | keyset
deriving DecidableEq, Repr, Inhabited

/-- Where a page starts, counted from zero. -/
inductive Position where
  /-- Rows to skip. -/
  | offset (rows : UInt64)
  /-- Pages to skip. -/
  | index (pages : UInt64)
deriving DecidableEq, Repr

instance : Inhabited Position := ⟨.offset 0⟩

/-- A request for a page. -/
structure Request where
  mode : Mode
  limit : UInt64
  position : Position
  orderingField : String
  /-- The last key of the page before. It counts in the keyset mode only. -/
  after : Option Param
deriving DecidableEq, Repr

/-- The request for all rows. -/
def Request.all : Request := ⟨.none, 0, .offset 0, "", none⟩

instance : Inhabited Request := ⟨.all⟩

/-- Why a request is refused. -/
inductive Refusal where
  | noOrderingField (mode : Mode)
  | limitNotPositive
  | indexOverflow (index limit : UInt64)
  | offsetOutOfRange
deriving DecidableEq, Repr

/-- The name of a mode in messages. -/
def Mode.diagnostic : Mode → String
  | .none => "None"
  | .limitOffset => "LimitOffset"
  | .keyset => "KeysetById"

/-- The name of a mode in serialized values. -/
def Mode.tag : Mode → String
  | .none => "none"
  | .limitOffset => "limit_offset"
  | .keyset => "keyset_by_id"

/-- The mode of a serialized name. -/
def Mode.ofTag? : String → Option Mode
  | "none" => some .none
  | "limit_offset" => some .limitOffset
  | "keyset_by_id" => some .keyset
  | _ => Option.none

namespace Refusal

/-- The text of a refusal. -/
def message : Refusal → String
  | .noOrderingField mode => mode.diagnostic ++ " pagination requires an ordering field"
  | .limitNotPositive => "pagination limit must be positive"
  | .indexOverflow index limit =>
    "page index " ++ Decimal.natText index.toNat ++ " with limit " ++
      Decimal.natText limit.toNat ++ " overflows the row offset"
  | .offsetOutOfRange => "pagination offset out of range"

/-- A refusal as an error. -/
def toError (refusal : Refusal) : Error := .invalidState refusal.message

end Refusal

namespace Request

/-- The rows before the page; refused where the product is no word. -/
def skipped (request : Request) : Except Refusal UInt64 :=
  match request.position with
  | .offset rows => .ok rows
  | .index pages =>
    if pages.toNat * request.limit.toNat < UInt64.size then .ok (pages * request.limit)
    else .error (.indexOverflow pages request.limit)

/-- The rows before the page of a request that can be planned. The ordering field is looked at
first, then the limit, then the position; without paging nothing is. -/
def validated (request : Request) : Except Refusal UInt64 :=
  if request.mode = .none then .ok 0
  else if Text.isBlankText request.orderingField then .error (.noOrderingField request.mode)
  else if request.limit = 0 then .error .limitNotPositive
  else
    match request.skipped with
    | .error refusal => .error refusal
    | .ok rows => if rows.toNat < Nat.pow 2 63 then .ok rows else .error .offsetOutOfRange

/-- The serialized form. The key is left out where there is none. -/
def toJson (request : Request) : Json :=
  let position : Json := match request.position with
    | .offset rows => .object [("offset", .int rows.toNat)]
    | .index pages => .object [("index", .int pages.toNat)]
  let after : Fields := match request.after with
    | some key => [("after", key.toJson)]
    | none => []
  .object ([("mode", .string request.mode.tag), ("limit", .int request.limit.toNat),
    ("position", position), ("ordering_field", .string request.orderingField)] ++ after)

/-- The position of a serialized form: one field that names the unit. -/
def positionOfJson? : Json → Option Position
  | .object [("offset", rows)] => (Json.uint64? rows).map .offset
  | .object [("index", pages)] => (Json.uint64? pages).map .index
  | _ => none

/-- The request of a serialized form. Mode and limit must be there. -/
def ofJson? (value : Json) : Option Request := do
  let record ← value.record? 5
  let mode ← record.required 0 "mode" fun tag => tag.tag?.bind Mode.ofTag?
  let limit ← record.required 1 "limit" Json.uint64?
  let position ← record.defaulted 2 "position" (.offset 0) positionOfJson?
  let orderingField ← record.defaulted 3 "ordering_field" "" Json.text?
  let after ← record.defaulted 4 "after" none (Json.nullable Param.ofJson?)
  return { mode, limit, position, orderingField, after }

end Request

end SqlAccess.Page
