import Mathlib.Order.Defs.LinearOrder
import Mathlib.Tactic.ByContra
import SqlAccess.Proofs.Decimal.Digits
import SqlAccess.Proofs.Page.Planned

/-!
# What is planned, and with which numbers

Limits, positions and page indices are words, and an index is multiplied with the limit. Here the
rows before a page are counted without words. Main statement: a request is planned exactly when the
count is in range, and what is written is the limit and this count, digit by digit; no product ever
wraps on its way into a statement.
-/

namespace SqlAccess.Page

/-- The rows before the page, as a natural. -/
def Request.before (request : Request) : Nat :=
  match request.position with
  | .offset rows => rows.toNat
  | .index pages => pages.toNat * request.limit.toNat

namespace Request

/-- A word for the rows before the page is their number, and there is one where a word can hold
it. -/
theorem skipped_eq_ok_iff (request : Request) (skip : UInt64) :
    request.skipped = .ok skip ↔ skip.toNat = request.before := by
  have small : skip.toNat < UInt64.size := skip.toNat_lt_size
  cases located : request.position with
  | offset rows =>
    simp only [skipped, before, located, Except.ok.injEq]
    rw [← UInt64.toNat_inj]
    exact eq_comm
  | index pages =>
    simp only [skipped, before, located]
    split
    · rename_i fits
      have product : (pages * request.limit).toNat = pages.toNat * request.limit.toNat := by
        rw [UInt64.toNat_mul]
        exact Nat.mod_eq_of_lt fits
      rw [Except.ok.injEq, ← UInt64.toNat_inj, product]
      exact eq_comm
    · rename_i beyond
      simp only [reduceCtorEq, false_iff]
      intro same
      exact beyond (same ▸ small)

/-- What is skipped is the number of the rows before the page. -/
theorem Skips.to_nat_eq {request : Request} {skip : UInt64} (skips : request.Skips skip) :
    skip.toNat = request.before := (request.skipped_eq_ok_iff skip).mp skips.skipped

/-- A request says how many rows it skips exactly when it has a field and a limit and the number is
in range. -/
theorem exists_skips_iff (request : Request) :
    (∃ skip, request.Skips skip) ↔
      Text.isBlankText request.orderingField = false ∧ request.limit ≠ 0 ∧
        request.before < Nat.pow 2 63 := by
  constructor
  · rintro ⟨skip, skips⟩
    exact ⟨skips.named, skips.positive, skips.to_nat_eq ▸ skips.inRange⟩
  · rintro ⟨named, positive, inRange⟩
    have fits : Nat.pow 2 63 < UInt64.size := by decide
    have held : (UInt64.ofNat request.before).toNat = request.before :=
      UInt64.toNat_ofNat_of_lt' (Nat.lt_trans inRange fits)
    exact ⟨.ofNat request.before, named, positive, (request.skipped_eq_ok_iff _).mpr held,
      lt_of_eq_of_lt held inRange⟩

/-- A request with paging that names no field, no limit, or more rows to skip than a statement
may. -/
structure OutOfRange (request : Request) : Prop where
  paged : request.mode ≠ .none
  fault : Text.isBlankText request.orderingField = true ∨ request.limit = 0 ∨
    Nat.pow 2 63 - 1 < request.before

/-- A request with paging is in range when it says how many rows it skips. -/
theorem out_of_range_iff {request : Request} (paged : request.mode ≠ .none) :
    request.OutOfRange ↔ ¬∃ skip, request.Skips skip := by
  have largest : 0 < Nat.pow 2 63 := by decide
  rw [exists_skips_iff]
  constructor
  · rintro ⟨_, blank | unlimited | far⟩ ⟨named, positive, inRange⟩
    · exact Bool.false_ne_true (named.symm.trans blank)
    · exact positive unlimited
    · omega
  · intro short
    refine ⟨paged, ?_⟩
    cases named : Text.isBlankText request.orderingField with
    | true => exact Or.inl rfl
    | false =>
      by_cases unlimited : request.limit = 0
      · exact Or.inr (Or.inl unlimited)
      · refine Or.inr (Or.inr ?_)
        by_contra near
        exact short ⟨named, unlimited, by omega⟩

end Request

section Written

/-- A window with its two numbers. -/
def windowText (dialect : Dialect) (limit skip : Nat) : String :=
  match dialect with
  | .sqlServer =>
    "OFFSET " ++ Decimal.natText skip ++ " ROWS FETCH NEXT " ++ Decimal.natText limit ++
      " ROWS ONLY"
  | .sqlite | .postgres => "LIMIT " ++ Decimal.natText limit ++ " OFFSET " ++ Decimal.natText skip

/-- The largest key of so many first rows. -/
def boundaryText (dialect : Dialect) (key table : String) (count : Nat) : String :=
  match dialect with
  | .sqlServer =>
    "(SELECT MAX(__page_key) FROM (SELECT TOP (" ++ Decimal.natText count ++ ") " ++ key ++
      " AS __page_key FROM " ++ table ++ " ORDER BY " ++ key ++ ") AS __page_boundary)"
  | .sqlite | .postgres =>
    "(SELECT MAX(__page_key) FROM (SELECT " ++ key ++ " AS __page_key FROM " ++ table ++
      " ORDER BY " ++ key ++ " LIMIT " ++ Decimal.natText count ++ ") AS __page_boundary)"

variable {dialect : Dialect} {key table : String}

/-- The window of a plan has its numbers in it. -/
theorem text_window (limit skip : UInt64) :
    (window dialect limit skip).text = windowText dialect limit.toNat skip.toNat := by
  cases dialect <;> rfl

/-- The bound of a plan has the number of rows in it. -/
theorem text_largest_key (skip : UInt64) :
    (Bound.largestKey table (leading dialect skip)).text key =
      boundaryText dialect key table skip.toNat := by
  cases dialect <;> rfl

/-- A number is told from a fixed text behind it that begins with no digit. -/
theorem nat_text_append_inj {first second : Nat} {fixed : String} {rest other : List Char}
    {c : Char} (starts : fixed.toList.head? = some c) (apart : Decimal.isDigit c = false)
    (same : (Decimal.natText first).toList ++ (fixed.toList ++ rest) =
      (Decimal.natText second).toList ++ (fixed.toList ++ other)) :
    first = second ∧ rest = other := by
  have stops (behind : List Char) : ∀ d ∈ (fixed.toList ++ behind).head?,
      Decimal.isDigit d = false := by
    intro d isFirst
    rw [List.head?_append, starts] at isFirst
    cases isFirst
    exact apart
  rw [Decimal.natText, Decimal.natText, String.toList_ofList, String.toList_ofList] at same
  obtain ⟨number, behind⟩ := Decimal.of_nat_append_inj (stops rest) (stops other) same
  exact ⟨number, List.append_cancel_left behind⟩

/-- Both numbers can be read from a window. -/
theorem window_text_inj {limit skip other elsewhere : Nat} :
    windowText dialect limit skip = windowText dialect other elsewhere ↔
      limit = other ∧ skip = elsewhere := by
  constructor
  · intro same
    have texts := congrArg String.toList same
    cases dialect with
    | sqlServer =>
      simp only [windowText, String.toList_append, List.append_assoc] at texts
      obtain ⟨skips, behind⟩ :=
        nat_text_append_inj rfl (by decide) (List.append_cancel_left texts)
      have limits := String.toList_injective (List.append_cancel_right behind)
      exact ⟨Decimal.nat_text_injective limits, skips⟩
    | sqlite | postgres =>
      simp only [windowText, String.toList_append, List.append_assoc] at texts
      obtain ⟨limits, behind⟩ :=
        nat_text_append_inj rfl (by decide) (List.append_cancel_left texts)
      exact ⟨limits, Decimal.nat_text_injective (String.toList_injective behind)⟩
  · rintro ⟨rfl, rfl⟩
    rfl

/-- The number of rows can be read from a bound. -/
theorem boundary_text_inj {count other : Nat} :
    boundaryText dialect key table count = boundaryText dialect key table other ↔
      count = other := by
  constructor
  · intro same
    cases dialect with
    | sqlServer =>
      unfold boundaryText at same
      have texts := congrArg String.toList same
      simp only [String.toList_append, List.append_assoc] at texts
      exact (nat_text_append_inj rfl (by decide) (List.append_cancel_left texts)).1
    | sqlite | postgres =>
      -- the number is the last of the text but for a fixed end
      have before := (String.append_left_inj _).mp same
      exact Decimal.nat_text_injective ((String.append_right_inj _).mp before)
  · rintro rfl
    rfl

end Written

/-- The numbers in the plan of a request with paging, as they can be read from it. -/
structure Plan.Writes (planned : Plan) (dialect : Dialect) (request : Request) (table : String) :
    Prop where
  /-- The window has the limit, and the rows to skip where pages are selected by them. -/
  window : ∀ limit skip, planned.limitText = some (windowText dialect limit skip) ↔
    limit = request.limit.toNat ∧ skip = if request.mode = .limitOffset then request.before else 0
  /-- At the start of a walk by key nothing is asked of the key. -/
  unbound : request.mode = .keyset → request.after = none → request.before = 0 →
    planned.whereText = none
  /-- Elsewhere, where no key is given, it is behind that of the last row before the page. -/
  bounded : request.mode = .keyset → request.after = none → request.before ≠ 0 →
    ∀ count, planned.whereText =
      some ("WHERE " ++ keyText dialect request.orderingField ++ " > " ++
      boundaryText dialect (keyText dialect request.orderingField) table count) ↔
        count = request.before

section Planned

variable {dialect : Dialect} {request : Request} {skip : UInt64} {table : String}

/-- Without paging nothing is planned, whatever else is in the request. -/
theorem plan_unpaged (unpaged : request.mode = .none) :
    plan dialect request table = .ok .empty := by
  simp only [plan, Request.validated, unpaged, if_true]

/-- A request that is out of range is refused for its state. -/
theorem plan_out_of_range (out : request.OutOfRange) :
    ∃ message, (plan dialect request table).mapError Refusal.toError =
      .error (.invalidState message) := by
  cases planned : plan dialect request table with
  | error refusal => exact ⟨refusal.message, rfl⟩
  | ok planned =>
    exact absurd (skips_of_plan out.paged planned) ((Request.out_of_range_iff out.paged).mp out)

/-- The plan of a page by position has the limit and the rows before the page in its window. -/
theorem writes_limit_offset (dialect : Dialect) (key table : String) (skips : request.Skips skip)
    (mode : request.mode = .limitOffset) :
    Plan.Writes ⟨some ⟨key, none, window dialect request.limit skip⟩, []⟩ dialect request
      table where
  window limit rows := by
    rw [Plan.limitText, Option.map_some, Option.some.injEq, text_window, window_text_inj,
      skips.to_nat_eq, if_pos mode, eq_comm (a := limit), eq_comm (a := rows)]
  unbound impossible := nomatch mode.symm.trans impossible
  bounded impossible := nomatch mode.symm.trans impossible

/-- The plan of a page by key has the limit in its window, and the rows before the page in the bound
where it looks for one. -/
theorem writes_keyset (dialect : Dialect) (table : String) (skips : request.Skips skip)
    (mode : request.mode = .keyset) :
    Plan.Writes ⟨some ⟨keyText dialect request.orderingField,
      (keysetBound dialect table request.after skip).1, window dialect request.limit 0⟩,
      (keysetBound dialect table request.after skip).2⟩ dialect request table where
  window limit rows := by
    have other : request.mode ≠ .limitOffset := by
      rw [mode]
      exact Mode.noConfusion
    rw [Plan.limitText, Option.map_some, Option.some.injEq, text_window, window_text_inj,
      if_neg other, eq_comm (a := limit), eq_comm (a := rows)]
    rfl
  unbound _ absent atStart := by
    have first : skip = 0 := UInt64.toNat_inj.mp (skips.to_nat_eq.trans atStart)
    rw [absent, keysetBound, if_pos first]
    rfl
  bounded _ absent elsewhere count := by
    have later : skip ≠ 0 := by
      rintro rfl
      exact elsewhere skips.to_nat_eq.symm
    have written : Plan.whereText ⟨some ⟨keyText dialect request.orderingField,
        some (.largestKey table (leading dialect skip)), window dialect request.limit 0⟩, []⟩ =
        some ("WHERE " ++ keyText dialect request.orderingField ++ " > " ++
          boundaryText dialect (keyText dialect request.orderingField) table skip.toNat) := by
      rw [← text_largest_key]
      rfl
    rw [absent, keysetBound, if_neg later, written, Option.some.injEq, String.append_right_inj,
      boundary_text_inj, skips.to_nat_eq]
    exact eq_comm

/-- A request that is in range is planned, with its own numbers. -/
theorem plan_in_range (paged : request.mode ≠ .none) (inRange : ¬request.OutOfRange) :
    ∃ planned, plan dialect request table = .ok planned ∧
      planned.Writes dialect request table := by
  obtain ⟨skip, skips⟩ :=
    not_not.mp fun none => inRange ((Request.out_of_range_iff paged).mpr none)
  cases mode : request.mode with
  | none => exact absurd mode paged
  | limitOffset =>
    obtain ⟨_, limit, position, field, after⟩ := request
    cases mode
    have writes := writes_limit_offset dialect (keyText dialect field) table skips rfl
    exact ⟨_, plan_limit_offset skips, writes⟩
  | keyset =>
    obtain ⟨_, limit, position, field, after⟩ := request
    cases mode
    have writes := writes_keyset dialect table skips rfl
    exact ⟨_, plan_keyset skips, writes⟩

end Planned

/-- What is planned of a request, in exact arithmetic. -/
structure PlansExactly (dialect : Dialect) (request : Request) (table : String) : Prop where
  /-- It is refused exactly where it is out of range, and always for its state. -/
  refused : request.OutOfRange ↔ ∃ message,
    (plan dialect request table).mapError Refusal.toError = .error (.invalidState message)
  /-- In range it is planned with its own numbers. -/
  planned : request.mode ≠ .none → ¬request.OutOfRange →
    ∃ planned, plan dialect request table = .ok planned ∧ planned.Writes dialect request table
  /-- Without paging it is planned as nothing. -/
  whole : request.mode = .none → plan dialect request table = .ok .empty

/-- Requests are planned exactly where their numbers are in range, and with exactly these numbers:
for every dialect, every limit, every position and every text of a table.

Proof: the count of rows before the page is the product in naturals wherever a word can hold it, and
where none can, it is out of range. So a request is valid exactly in range, and its numbers are read
from the clauses as they were written. -/
theorem plan_plans_exactly (dialect : Dialect) (request : Request) (table : String) :
    PlansExactly dialect request table where
  refused := by
    refine ⟨plan_out_of_range, ?_⟩
    rintro ⟨message, failed⟩
    by_contra inRange
    by_cases unpaged : request.mode = .none
    · rw [plan_unpaged unpaged] at failed
      cases failed
    · obtain ⟨planned, accepted, _⟩ := plan_in_range unpaged inRange
      rw [accepted] at failed
      cases failed
  planned := plan_in_range
  whole := plan_unpaged

end SqlAccess.Page
