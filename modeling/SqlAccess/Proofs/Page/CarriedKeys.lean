import Mathlib.Data.List.Forall2
import SqlAccess.Proofs.Page.Serialized
import SqlAccess.Session.Sqlite

/-!
# Keys carried from page to page

The key of the last row of a page is read from its cell and bound again, as the boundary of the next
page. On its way it is stored by SQLite, decoded, and made a parameter again. Main statement: it
arrives exactly when it is no bytes and no number that is not finite. Bytes arrive as the text of
their Base64 form and an infinity as the text that names it, so the keys of the next page are
compared with a text, although they are none.
-/

namespace SqlAccess

open Cell (Stored)

namespace Param

/-- A key as SQLite has it, which keeps truth values as integers. -/
def asKey : Param → Param
  | .bool value => .int (if value then 1 else 0)
  | other => other

/-- What a key has become when it is bound again. -/
def carried : Param → Param
  | .bool value => .int (if value then 1 else 0)
  | .float value =>
    if value.isNaN then .null
    else if value.isFinite then .float value
    else .string value.statementText
  | .bytes value => .string (String.ofList (Bytes.base64 value))
  | other => other

/-- What is read from the cell of a stored parameter. -/
theorem of_cell_stored (param : Param) :
    ofCell ((Stored.ofParam param).toJson none) = param.carried := by
  cases param with
  | null | string value | bytes value => rfl
  | bool value => cases value <;> rfl
  | int value => exact of_int_to_int value
  | float value =>
    simp only [Stored.ofParam, carried]
    cases value.isNaN with
    | true => rfl
    | false =>
      simp only [Bool.false_eq_true, if_false, Stored.toJson, Cell.ofFloat]
      split <;> rfl

/-- The keys that arrive as they were. -/
theorem carried_eq_as_key_iff (param : Param) :
    param.carried = param.asKey ↔
      (∀ bytes, param ≠ .bytes bytes) ∧
        ∀ value, param = .float value → value.isFinite = true := by
  cases param with
  | float value =>
    cases finite : value.isFinite with
    | true => simp [carried, asKey, finite, Binary64.is_nan_of_is_finite finite]
    | false => cases number : value.isNaN <;> simp [carried, asKey, finite, number]
  | null | bool value | int value | string value | bytes value => simp [carried, asKey]

/-- The keys that are stored as they were when they are bound again. What is no number is stored as
null at once, and stays that. -/
theorem of_param_carried_eq_iff (param : Param) :
    Stored.ofParam param.carried = Stored.ofParam param ↔
      (∀ bytes, param ≠ .bytes bytes) ∧
        ∀ value, param = .float value → value.isFinite = true ∨ value.isNaN = true := by
  cases param with
  | float value =>
    cases number : value.isNaN with
    | true => simp [carried, Stored.ofParam, number]
    | false => cases finite : value.isFinite <;> simp [carried, Stored.ofParam, finite, number]
  | null | bool value | int value | string value | bytes value =>
    simp [carried, Stored.ofParam]

/-- What becomes of a key whose cell is this one, once it is read and bound again. -/
structure CarriedBy (param : Param) (cell : Json) : Prop where
  /-- It is what it was exactly when it is no bytes and no number that is not finite. -/
  same : ofCell cell = param.asKey ↔
    (∀ bytes, param ≠ .bytes bytes) ∧
      ∀ value, param = .float value → value.isFinite = true
  /-- It is stored as it was, and so compares as it did, exactly when it is no bytes and no
  infinity. -/
  stored : Stored.ofParam (ofCell cell) = Stored.ofParam param ↔
    (∀ bytes, param ≠ .bytes bytes) ∧
      ∀ value, param = .float value → value.isFinite = true ∨ value.isNaN = true

/-- Every stored parameter is carried by its cell. -/
theorem carried_by_stored (param : Param) :
    param.CarriedBy ((Stored.ofParam param).toJson none) where
  same := by rw [param.of_cell_stored, param.carried_eq_as_key_iff]
  stored := by rw [param.of_cell_stored, param.of_param_carried_eq_iff]

end Param

namespace SqliteSession

/-- There are as many names of columns as columns. -/
theorem length_column_names (count : Nat) : (columnNames count).length = count := by
  rw [columnNames, List.length_map, List.length_range']

/-- The cells of parameters that are selected as expressions. -/
theorem map_snd_selected (params : List Param) :
    (selected params).map Prod.snd =
      params.map fun param => (Stored.ofParam param).toJson none := by
  rw [selected, rowOf, List.map_snd_zip]
  · rw [List.zip_map', List.map_map]
    rfl
  · -- there is a name for every cell
    simp only [length_column_names, List.length_map, List.length_zip, Nat.min_self, Nat.le_refl]

/-- Keys that are bound to an open session and selected come back in one row, cell by cell.

Proof: a row of selected values has one cell for each parameter, in order, and of each alone the
cell is what is stored and decoded. -/
theorem select_carries_keys (opened : Opened) (first : Param) (rest : List Param) :
    ∃ row, (respond opened (.select (first :: rest))).result = .ok (.rows [row]) ∧
      List.Forall₂ (fun param cell => param.CarriedBy cell.2) (first :: rest) row := by
  refine ⟨selected (first :: rest), rfl, ?_⟩
  apply (List.forall₂_map_right_iff (f := Prod.snd)).mp
  rw [map_snd_selected]
  apply List.forall₂_map_right_iff.mpr
  apply List.forall₂_same.mpr
  intro param _
  exact param.carried_by_stored

/-- Bytes and an infinity that are selected, read from their cells and bound again: texts that are
stored in their place. -/
theorem select_lost_keys :
    let keys : List Param := [.bytes [1, 2], .float .infinity]
    let row : Row := [("c1", .string "AQI="), ("c2", .string "inf")]
    let bound := row.map fun cell => Param.ofCell cell.2
    (respond {} (.select keys)).result = .ok (.rows [row]) ∧
      bound = [.string "AQI=", .string "inf"] ∧ bound ≠ keys.map Param.asKey ∧
      bound.map Stored.ofParam ≠ keys.map Stored.ofParam :=
  ⟨rfl, rfl, by decide, by decide⟩

end SqliteSession

end SqlAccess
