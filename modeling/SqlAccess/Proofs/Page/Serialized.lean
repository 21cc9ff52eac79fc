import SqlAccess.Page.Request
import SqlAccess.Proofs.Decimal.Digits
import SqlAccess.Proofs.Json.Records

/-!
# Page requests read back

A request is serialized and read again by another party. Mode, limit, position and field come back
as they were. Main statement: the key does so exactly when it is no bytes, no number that is not
finite and not NULL. Parameters show no tag, so bytes come back as the text that stands for them;
and the key may be absent, so a key that is NULL is read as no key, and the page starts at the
beginning.
-/

namespace SqlAccess

namespace Param

/-- What a parameter is after it was serialized and read. -/
def reread : Param → Param
  | .float value => if value.isFinite then .float value else .null
  | .bytes value => .string (String.ofList (Bytes.base64 value))
  | other => other

/-- What is written of an integer is read as the integer. -/
theorem of_int_to_int (value : Int64) : ofInt value.toInt = .int value := by
  rw [ofInt, if_pos (Decimal.fits_to_int value), Int64.ofInt_toInt]

/-- What is read from a serialized parameter. -/
theorem of_json?_to_json (param : Param) : ofJson? param.toJson = some param.reread := by
  cases param with
  | int value => exact congrArg some (of_int_to_int value)
  | float value =>
    simp only [toJson, reread]
    split <;> rfl
  | null | bool value | string value | bytes value => rfl

/-- The parameters that come back as they were. -/
theorem reread_eq_self_iff (param : Param) :
    param.reread = param ↔
      (∀ bytes, param ≠ .bytes bytes) ∧
        ∀ value, param = .float value → value.isFinite = true := by
  cases param with
  | float value =>
    by_cases finite : value.isFinite = true <;> simp [reread, finite]
  | null | bool value | int value | string value | bytes value => simp [reread]

/-- A key that may be absent is absent when what is written of it is null. -/
theorem nullable_to_json (param : Param) :
    Json.nullable ofJson? param.toJson =
      some (if param.reread = .null then none else some param.reread) := by
  cases param with
  | int value => simp [toJson, Json.nullable, ofJson?, of_int_to_int, reread]
  | float value =>
    by_cases finite : value.isFinite = true <;>
      simp [toJson, Json.nullable, ofJson?, reread, finite]
  | null | bool value | string value | bytes value =>
    simp [toJson, Json.nullable, ofJson?, reread]

end Param

namespace Page

/-- Every serialized name reads back as its mode. -/
theorem Mode.of_tag?_tag (mode : Mode) : ofTag? mode.tag = some mode := by
  cases mode <;> rfl

namespace Request

/-- What is read of a key that was serialized. -/
def rereadKey (after : Option Param) : Option Param :=
  after.bind fun key => if key.reread = .null then none else some key.reread

/-- What is read from a serialized request differs from it in the key only. -/
theorem of_json?_to_json (request : Request) :
    ofJson? request.toJson = some { request with after := rereadKey request.after } := by
  obtain ⟨mode, limit, position, field, after⟩ := request
  cases position <;> cases after <;>
    simp [toJson, ofJson?, Json.tag?, Mode.of_tag?_tag, positionOfJson?, rereadKey,
      Param.nullable_to_json]

/-- The keys that come back as they were: none, and those that are neither NULL nor changed. -/
theorem reread_key_eq_self_iff (after : Option Param) :
    rereadKey after = after ↔ ∀ key ∈ after, key ≠ .null ∧ key.reread = key := by
  cases after with
  | none => simp [rereadKey]
  | some key =>
    simp only [rereadKey, Option.bind_some, Option.mem_def, Option.some.injEq, forall_eq']
    by_cases missing : key.reread = .null
    · simp only [missing, if_true, reduceCtorEq, false_iff]
      exact fun kept => kept.1 kept.2.symm
    · simp only [missing, if_false, Option.some.injEq, iff_and_self]
      exact fun kept isNull => missing (kept.trans isNull)

end Request

/-- A parameter comes back from its serialized form exactly when it is no bytes and no number that
is not finite. A request comes back in all but its key, and so does the key exactly when there is
none or it comes back as a parameter and is not NULL.

Proof: the form of a parameter is read as a parameter that is computed here, case by case, and so is
that of a key. Each is compared with what was written. -/
theorem request_reread (param : Param) (request : Request) :
    (Param.ofJson? param.toJson = some param ↔
      (∀ bytes, param ≠ .bytes bytes) ∧
        ∀ value, param = .float value → value.isFinite = true) ∧
    ∃ after, Request.ofJson? request.toJson = some { request with after := after } ∧
      (after = request.after ↔
        ∀ key ∈ request.after, key ≠ .null ∧ Param.ofJson? key.toJson = some key) := by
  refine ⟨?_, Request.rereadKey request.after, request.of_json?_to_json, ?_⟩
  · rw [Param.of_json?_to_json, Option.some.injEq, param.reread_eq_self_iff]
  · simp only [Param.of_json?_to_json, Option.some.injEq, Request.reread_key_eq_self_iff]

/-- Bytes come back as text, and a key that is NULL does not come back at all. -/
theorem request_lost_key :
    Param.ofJson? (Param.bytes [1, 2]).toJson = some (.string "AQI=") ∧
    Param.ofJson? (Param.bytes [1, 2]).toJson ≠ some (.bytes [1, 2]) ∧
    Request.ofJson? (Request.toJson ⟨.keyset, 2, .offset 0, "id", some .null⟩) =
      some ⟨.keyset, 2, .offset 0, "id", none⟩ ∧
    Request.ofJson? (Request.toJson ⟨.keyset, 2, .offset 0, "id", some .null⟩) ≠
      some ⟨.keyset, 2, .offset 0, "id", some .null⟩ := by
  simp only [Param.of_json?_to_json, Request.of_json?_to_json]
  decide

end Page

end SqlAccess
