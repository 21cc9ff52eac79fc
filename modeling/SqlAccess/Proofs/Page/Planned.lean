import SqlAccess.Page.Plan

/-!
# Accepted requests and their plans

A request with paging is accepted when it says how many rows it skips. What it is planned as follows
from its mode, this number and the key that is given: one equation for each mode, which the other
modules use in place of the definition.
-/

namespace SqlAccess.Page

/-- When a request is accepted, apart from its mode, and how many rows it then skips. -/
structure Request.Skips (request : Request) (skip : UInt64) : Prop where
  named : Text.isBlankText request.orderingField = false
  positive : request.limit ≠ 0
  skipped : request.skipped = .ok skip
  inRange : skip.toNat < Nat.pow 2 63

/-- A request with paging is accepted when it says how many rows it skips. -/
theorem Request.validated_eq_ok {request : Request} (paged : request.mode ≠ .none)
    (skip : UInt64) :
    request.validated = .ok skip ↔ request.Skips skip := by
  unfold validated
  rw [if_neg paged]
  constructor
  · intro accepted
    split at accepted
    · cases accepted
    · rename_i named
      split at accepted
      · cases accepted
      · rename_i positive
        split at accepted
        · cases accepted
        · rename_i rows skipped
          split at accepted
          · rename_i inRange
            cases accepted
            exact ⟨by simpa using named, positive, skipped, inRange⟩
          · cases accepted
  · rintro ⟨named, positive, skipped, inRange⟩
    simp only [named, Bool.false_eq_true, if_false, positive, skipped, inRange, if_true]

/-- Neither the mode nor a key that is given changes how many rows are skipped. -/
theorem Request.Skips.other {request other : Request} {skip : UInt64}
    (skips : request.Skips skip) (sameField : other.orderingField = request.orderingField)
    (sameLimit : other.limit = request.limit) (samePosition : other.position = request.position) :
    other.Skips skip where
  named := sameField ▸ skips.named
  positive := sameLimit ▸ skips.positive
  skipped := by
    have same : other.skipped = request.skipped := by
      unfold Request.skipped
      rw [samePosition, sameLimit]
    rw [same, skips.skipped]
  inRange := skips.inRange

section Plans

variable {dialect : Dialect} {request : Request} {planned : Plan} {limit skip : UInt64}
  {position : Position} {field quoted : String} {after : Option Param}

/-- The key of a page, as it is written. -/
def keyText (dialect : Dialect) (field : String) : String :=
  dialect.quoteIdentifier (Text.trimmed field)

/-- A plan is made of a request that is valid. -/
theorem exists_validated (accepted : plan dialect request quoted = .ok planned) :
    ∃ skip, request.validated = .ok skip := by
  cases valid : request.validated with
  | error refusal => simp [plan, valid] at accepted
  | ok skip => exact ⟨skip, rfl⟩

/-- What a request is planned as that skips some number of rows. -/
theorem plan_of_validated (valid : request.validated = .ok skip) :
    plan dialect request quoted =
      .ok (match request.mode with
        | .none => .empty
        | .limitOffset =>
          ⟨some ⟨keyText dialect request.orderingField, none,
            window dialect request.limit skip⟩, []⟩
        | .keyset =>
          ⟨some ⟨keyText dialect request.orderingField,
            (keysetBound dialect quoted request.after skip).1, window dialect request.limit 0⟩,
            (keysetBound dialect quoted request.after skip).2⟩) := by
  simp only [plan, valid, keyText]
  cases request.mode <;> rfl

/-- What is planned skips some number of rows. -/
theorem skips_of_plan (paged : request.mode ≠ .none)
    (accepted : plan dialect request quoted = .ok planned) : ∃ skip, request.Skips skip := by
  obtain ⟨skip, valid⟩ := exists_validated accepted
  exact ⟨skip, (Request.validated_eq_ok paged skip).mp valid⟩

/-- The plan of a page by position. -/
theorem plan_limit_offset
    (skips : Request.Skips ⟨.limitOffset, limit, position, field, after⟩ skip) :
    plan dialect ⟨.limitOffset, limit, position, field, after⟩ quoted =
      .ok ⟨some ⟨keyText dialect field, none, window dialect limit skip⟩, []⟩ :=
  plan_of_validated ((Request.validated_eq_ok Mode.noConfusion skip).mpr skips)

/-- The plan of a page by key. -/
theorem plan_keyset (skips : Request.Skips ⟨.keyset, limit, position, field, after⟩ skip) :
    plan dialect ⟨.keyset, limit, position, field, after⟩ quoted =
      .ok ⟨some ⟨keyText dialect field, (keysetBound dialect quoted after skip).1,
        window dialect limit 0⟩, (keysetBound dialect quoted after skip).2⟩ :=
  plan_of_validated ((Request.validated_eq_ok Mode.noConfusion skip).mpr skips)

end Plans

end SqlAccess.Page
