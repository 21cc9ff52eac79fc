import SqlAccess.Metadata.Serialized

/-!
# Records read back

A record is written as an object and read field by field. A field of an object is the one of the
first of its parts that has it, so each field can be looked at by itself: what is always written is
found under its name, and what is written where there is a value is found exactly then. Main
statements: integers of the machine read back, and lists do when their items do.
-/

namespace SqlAccess

namespace Fields

/-- The first field is found under its name. -/
@[simp]
theorem get?_cons (first : String × Json) (rest : Fields) (name : String) :
    get? (first :: rest) name = if first.1 = name then some first.2 else get? rest name := by
  by_cases same : first.1 = name <;> simp [get?, same]

/-- Nothing is found among no fields. -/
@[simp]
theorem get?_nil (name : String) : get? [] name = none := rfl

/-- What is not among the first fields is looked for among the others. -/
@[simp]
theorem get?_append (first second : Fields) (name : String) :
    get? (first ++ second) name = (get? first name).or (get? second name) := by
  simp [get?, List.find?_append, Option.map_or]

/-- A field that may be left out is found where it is written. -/
@[simp]
theorem get?_field_if_any (written : String) (value : Option Json) (name : String) :
    get? (Json.fieldIfAny written value) name = if written = name then value else none := by
  cases value <;> simp [Json.fieldIfAny]

end Fields

namespace Json

/-- An object is a record with names. -/
@[simp]
theorem record?_object (size : Nat) (fields : Fields) :
    (object fields).record? size = some (.named fields) := rfl

/-- The field of an object. -/
@[simp]
theorem get?_object (fields : Fields) (name : String) :
    (object fields).get? name = fields.get? name := rfl

namespace Record

variable {α : Type} {fields : Fields} {name : String} {read : Json → Option α}

/-- A field that must be there is looked up by its name. -/
@[simp]
theorem required_named (place : Nat) :
    (named fields).required place name read = (fields.get? name).bind read := rfl

/-- A field that may be absent is looked up by its name. -/
@[simp]
theorem optional_named (place : Nat) :
    (named fields).optional place name read =
      ((fields.get? name).map (nullable read)).getD (some none) := by
  cases found : fields.get? name <;> simp [optional, get?, found]

/-- A field with a value of its own is looked up by its name. -/
@[simp]
theorem defaulted_named (place : Nat) (value : α) :
    (named fields).defaulted place name value read =
      ((fields.get? name).map read).getD (some value) := by
  cases found : fields.get? name <;> simp [defaulted, get?, found]

/-- What reads back where it is there reads back where it may be absent. -/
@[simp]
theorem getd_map_some (value : Option α) :
    (value.map fun present => some (some present)).getD (some none) = some value := by
  cases value <;> rfl

end Record

/-- Truth values read back. -/
@[simp]
theorem bool?_bool (value : Bool) : bool? (.bool value) = some value := rfl

/-- Texts read back. -/
@[simp]
theorem text?_string (value : String) : text? (.string value) = some value := rfl

/-- An integer within its bounds is read. -/
theorem int_in?_int {least most value : Int} (above : least ≤ value) (below : value ≤ most) :
    intIn? least most (.int value) = some value := if_pos ⟨above, below⟩

/-- Integers of 64 signed bits read back. -/
@[simp]
theorem int64?_to_int (value : Int64) : int64? (.int value.toInt) = some value := by
  have above : Int64.minValue.toInt ≤ value.toInt := Int64.le_toInt value
  have below : value.toInt ≤ Int64.maxValue.toInt := Int.le_of_lt_add_one (Int64.toInt_lt value)
  rw [int64?, int_in?_int above below, Option.map_some, Int64.ofInt_toInt]

/-- Integers of 32 signed bits read back. -/
@[simp]
theorem int32?_to_int (value : Int32) : int32? (.int value.toInt) = some value := by
  have above : Int32.minValue.toInt ≤ value.toInt := Int32.le_toInt value
  have below : value.toInt ≤ Int32.maxValue.toInt := Int.le_of_lt_add_one (Int32.toInt_lt value)
  rw [int32?, int_in?_int above below, Option.map_some, Int32.ofInt_toInt]

/-- Integers of 64 unsigned bits read back. -/
@[simp]
theorem uint64?_to_nat (value : UInt64) : uint64? (.int value.toNat) = some value := by
  have below : (value.toNat : Int) ≤ (UInt64.size : Int) - 1 := by
    have small := value.toNat_lt_size
    omega
  rw [uint64?, int_in?_int (Int.natCast_nonneg _) below, Option.map_some, Int.toNat_natCast,
    UInt64.ofNat_toNat]

/-- What is not null is read as it would be elsewhere. -/
@[simp]
theorem nullable_of_ne_null {α : Type} {read : Json → Option α} {value : Json}
    (present : value ≠ .null) : nullable read value = (read value).map some := by
  cases value with
  | null => exact absurd rfl present
  | bool | int | float | string | array | object => rfl

/-- A text that may be missing reads back. -/
@[simp]
theorem nullable_of_option (value : Option String) :
    nullable text? (ofOption (value.map .string)) = some value := by
  cases value <;> rfl

/-- Items read back one after another. -/
theorem mapm_map {α β : Type} {write : α → β} {read : β → Option α}
    (reads : ∀ item, read (write item) = some item) (items : List α) :
    (items.map write).mapM read = some items := by
  induction items with
  | nil => rfl
  | cons item rest inductionHypothesis => simp [reads, inductionHypothesis]

/-- Lists read back when their items do. -/
@[simp]
theorem list?_array {α : Type} {write : α → Json} {read : Json → Option α}
    (reads : ∀ item, read (write item) = some item) (items : List α) :
    list? read (.array (items.map write)) = some items := mapm_map reads items

end Json

end SqlAccess
