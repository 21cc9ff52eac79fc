import SqlAccess.Proofs.Page.Queries
import SqlAccess.Proofs.Query.Arrangement

/-!
# Pages by position and pages by key

A page can be asked for by the number of rows before it or by a key, and a key can be given or be
looked up as the greatest key of the rows before the page. Main statement: over a table with
distinct keys all three select the same rows in the same order, whatever the dialect; and what is
accepted in one form is accepted in the others.

What a plan selects is what its statement is answered with, as a reader of the text understands it.
Both forms are compared with one page that is said without a query: of the rows in the order of
their keys, so many are skipped and so many are taken.
-/

namespace SqlAccess.Page

open Query (Database Keyed Arranged)

/-- A page that a plan may select from a table: its clauses stand behind `SELECT * FROM` and the
table, and the statement may be answered with the page. -/
def Plan.Selects {R K : Type} [LinearOrder K] (plan : Plan) (database : Database R K)
    (dialect : Dialect) (table : TableRef) (page : List R) : Prop :=
  Query.Answers database dialect (statement dialect table plan) plan.params page

/-- The only page that a plan may select from a table. -/
def Plan.SelectsOnly {R K : Type} [LinearOrder K] (plan : Plan) (database : Database R K)
    (dialect : Dialect) (table : TableRef) (page : List R) : Prop :=
  ∀ rows, plan.Selects database dialect table rows ↔ rows = page

section Selections

variable {R K : Type} [LinearOrder K] {database : Database R K} {dialect : Dialect}
  {table : TableRef} {request : Request} {key : String} {arranged : List R} {skip : UInt64}
  {params : List Param}

/-- A plan selects what the query of the page does. -/
theorem selects_iff {planned : Plan} (valid : request.validated = .ok skip)
    (accepted : plan dialect request (dialect.quoteTable table) = .ok planned) (page : List R) :
    planned.Selects database dialect table page ↔
      (pageQuery table request skip).Selects database planned.params page :=
  Query.answers_iff (of_text?_statement valid accepted) page

/-- Over distinct keys an ordered slice of the whole table is one page. -/
theorem slice_selects (keyed : Keyed (database.cell key) (database.rows table))
    (arranges : Arranged .ascending (database.cell key) (database.rows table) arranged)
    (rows limit : Nat) (page : List R) :
    Query.Selects
        ⟨table, none, some ⟨key, .ascending⟩, .slice rows limit⟩ database params page ↔
      page = (arranged.drop rows).take limit := by
  constructor
  · rintro ⟨kept, other, rfl, otherArranges, rfl⟩
    rw [Query.Cut.keep, keyed.arranged_unique otherArranges arranges]
  · rintro rfl
    exact ⟨_, arranged, rfl, arranges, rfl⟩

/-- Over distinct keys the first rows behind a key are one page, where the operand has one
meaning. -/
theorem behind_selects (keyed : Keyed (database.cell key) (database.rows table))
    (arranges : Arranged .ascending (database.cell key) (database.rows table) arranged)
    {operand : Query.Operand} {least : Option K}
    (means : ∀ other, operand.Means database params other ↔ other = least)
    (limit : Nat) (page : List R) :
    Query.Selects
        ⟨table, some ⟨key, .greater, operand⟩, some ⟨key, .ascending⟩, .slice 0 limit⟩
        database params page ↔
      page = (arranged.filter fun row =>
        Query.Comparison.greater.holds (database.cell key row) least).take limit := by
  constructor
  · rintro ⟨kept, other, ⟨found, isBound, rfl⟩, otherArranges, rfl⟩
    rw [(means found).mp isBound] at otherArranges
    rw [Query.Cut.keep, List.drop_zero,
      (keyed.filter _).arranged_unique otherArranges (arranges.filter _)]
  · rintro rfl
    exact ⟨_, _, ⟨least, (means least).mpr rfl, rfl⟩, arranges.filter _, rfl⟩

/-- The first parameter stands for the one value that is bound. -/
theorem parameter_means (value : Param) (least : Option K) :
    (Query.Operand.parameter 1).Means database [value] least ↔ least = database.value value := by
  constructor
  · rintro ⟨index, param, isFirst, isBound, rfl⟩
    obtain rfl : index = 0 := (Nat.succ.inj isFirst).symm
    cases isBound
    rfl
  · rintro rfl
    exact ⟨0, value, rfl, rfl, rfl⟩

/-- Over distinct keys the first rows of a table have one greatest key. -/
theorem greatest_means (keyed : Keyed (database.cell key) (database.rows table))
    (arranges : Arranged .ascending (database.cell key) (database.rows table) arranged)
    (called name : String) (count : Nat) (least : Option K) :
    (Query.Operand.aggregate .greatest
        ⟨key, called, table, some ⟨key, .ascending⟩, .first count⟩ name).Means
        database params least ↔
      least = Query.Aggregate.greatest.value ((arranged.take count).map (database.cell key)) := by
  constructor
  · rintro ⟨_, ⟨other, otherArranges, rfl⟩, rfl⟩
    rw [Query.Cut.keep, keyed.arranged_unique otherArranges arranges]
  · rintro rfl
    exact ⟨_, ⟨arranged, arranges, rfl⟩, rfl⟩

end Selections

section Agreement

variable {R K : Type} [LinearOrder K] {database : Database R K} {dialect : Dialect}
  {table : TableRef} {field : String} {limit skip : UInt64} {position : Position}
  {arranged : List R} {after : Option Param} {planned : Plan}

/-- A page by position is cut out of the rows in the order of their keys. -/
theorem selects_only_limit_offset
    (keyed : Keyed (database.cell (Text.trimmed field)) (database.rows table))
    (arranges :
      Arranged .ascending (database.cell (Text.trimmed field)) (database.rows table) arranged)
    (skips : Request.Skips ⟨.limitOffset, limit, position, field, after⟩ skip)
    (accepted : plan dialect ⟨.limitOffset, limit, position, field, after⟩
      (dialect.quoteTable table) = .ok planned) :
    planned.SelectsOnly database dialect table ((arranged.drop skip.toNat).take limit.toNat) := by
  have valid := (Request.validated_eq_ok Mode.noConfusion skip).mpr skips
  intro rows
  rw [selects_iff valid accepted]
  exact slice_selects keyed arranges skip.toNat limit.toNat rows

/-- Without a key that is given, a page by key is the page by position. At the start there is no
condition; everywhere else the rows before the page have a greatest key, or there are no rows. -/
theorem selects_only_looked_up
    (keyed : Keyed (database.cell (Text.trimmed field)) (database.rows table))
    (arranges :
      Arranged .ascending (database.cell (Text.trimmed field)) (database.rows table) arranged)
    (skips : Request.Skips ⟨.keyset, limit, position, field, none⟩ skip)
    (accepted : plan dialect ⟨.keyset, limit, position, field, none⟩
      (dialect.quoteTable table) = .ok planned) :
    planned.SelectsOnly database dialect table ((arranged.drop skip.toNat).take limit.toNat) := by
  have valid := (Request.validated_eq_ok Mode.noConfusion skip).mpr skips
  intro rows
  rw [selects_iff valid accepted]
  by_cases atStart : skip = 0
  · subst atStart
    exact slice_selects keyed arranges 0 limit.toNat rows
  · have someSkipped : 0 < skip.toNat :=
      Nat.pos_of_ne_zero fun zero => atStart (UInt64.toNat_inj.mp zero)
    simp only [pageQuery, keyCondition, atStart, if_false]
    rw [behind_selects keyed arranges (greatest_means keyed arranges _ _ skip.toNat),
      Query.filter_greatest_eq_drop keyed arranges someSkipped]

/-- Behind a key that is given, a page by key starts with the row after the one that has it,
wherever the position of the request is. -/
theorem selects_only_given
    (keyed : Keyed (database.cell (Text.trimmed field)) (database.rows table))
    (arranges :
      Arranged .ascending (database.cell (Text.trimmed field)) (database.rows table) arranged)
    {before : Nat} {row : R} (last : arranged[before]? = some row) {given : Param}
    (isKey : database.value given = database.cell (Text.trimmed field) row)
    (accepted : plan dialect ⟨.keyset, limit, position, field, some given⟩
      (dialect.quoteTable table) = .ok planned) :
    planned.SelectsOnly database dialect table ((arranged.drop (before + 1)).take limit.toNat) := by
  obtain ⟨skip, valid⟩ := exists_validated accepted
  have bound : planned.params = [given] := params_of_plan accepted
  intro rows
  rw [selects_iff valid accepted, bound]
  simp only [pageQuery, keyCondition]
  rw [behind_selects keyed arranges (parameter_means given), isKey,
    Query.filter_key_eq_drop keyed arranges last]

end Agreement

/-- Pages by position and by key over a table, for one limit and one position. -/
structure PagesAgree {R K : Type} [LinearOrder K] (database : Database R K) (dialect : Dialect)
    (table : TableRef) (field : String) (limit : UInt64) (position : Position)
    (ignored : Option Param) (arranged : List R) (skip : UInt64) (byPosition byKey : Plan) :
    Prop where
  inOrder : Arranged .ascending (database.cell (Text.trimmed field)) (database.rows table) arranged
  skipped : Request.skipped ⟨.limitOffset, limit, position, field, ignored⟩ = .ok skip
  positionPlanned : plan dialect ⟨.limitOffset, limit, position, field, ignored⟩
    (dialect.quoteTable table) = .ok byPosition
  keyPlanned : plan dialect ⟨.keyset, limit, position, field, none⟩ (dialect.quoteTable table) =
    .ok byKey
  /-- By position the rows in the order of their keys are cut. -/
  atPosition : byPosition.SelectsOnly database dialect table
    ((arranged.drop skip.toNat).take limit.toNat)
  /-- By key these rows are selected too. -/
  lookedUp : byKey.SelectsOnly database dialect table
    ((arranged.drop skip.toNat).take limit.toNat)
  /-- So they are when the key of the last skipped row is given, also with another position. -/
  given : 0 < skip.toNat → ∀ row, arranged[skip.toNat - 1]? = some row →
    ∀ value, database.value value = database.cell (Text.trimmed field) row →
      (∃ behindKey, plan dialect ⟨.keyset, limit, position, field, some value⟩
        (dialect.quoteTable table) = .ok behindKey) ∧
      ∀ elsewhere behindKey,
        plan dialect ⟨.keyset, limit, elsewhere, field, some value⟩ (dialect.quoteTable table) =
            .ok behindKey →
          behindKey.SelectsOnly database dialect table
            ((arranged.drop skip.toNat).take limit.toNat)

/-- Pages by key agree with pages by position over every table with distinct keys, in every
dialect, for every limit and every position that is accepted in one of the two modes. What a page
holds is read off the statement that its plan is written as.

Proof: each statement is read back as a query over the table. By position the query cuts the one
arrangement that distinct keys have. By key it filters this arrangement first, by the greatest of
the first keys or by the key that is given; what exceeds either is what follows the rows before the
page, so that the cut at the start of the rest is the same page. -/
theorem keyset_agrees {R K : Type} [LinearOrder K] (database : Database R K) (dialect : Dialect)
    (table : TableRef) (field : String)
    (keyed : Keyed (database.cell (Text.trimmed field)) (database.rows table)) (limit : UInt64)
    (position : Position) (mode : Mode) (paged : mode ≠ .none) (after ignored : Option Param)
    (planned : Plan)
    (accepted : plan dialect ⟨mode, limit, position, field, after⟩ (dialect.quoteTable table) =
      .ok planned) :
    ∃ arranged skip byPosition byKey,
      PagesAgree database dialect table field limit position ignored arranged skip byPosition
        byKey := by
  obtain ⟨skip, skips⟩ := skips_of_plan paged accepted
  have positionSkips : Request.Skips ⟨.limitOffset, limit, position, field, ignored⟩ skip :=
    skips.other rfl rfl rfl
  have keySkips (given : Option Param) :
      Request.Skips ⟨.keyset, limit, position, field, given⟩ skip := skips.other rfl rfl rfl
  obtain ⟨arranged, arranges⟩ := Query.exists_arranged (database.cell (Text.trimmed field))
    (database.rows table)
  refine ⟨arranged, skip, _, _, arranges, positionSkips.skipped, plan_limit_offset positionSkips,
    plan_keyset (keySkips none),
    selects_only_limit_offset keyed arranges positionSkips (plan_limit_offset positionSkips),
    selects_only_looked_up keyed arranges (keySkips none) (plan_keyset (keySkips none)), ?_⟩
  intro someSkipped row last value isKey
  refine ⟨⟨_, plan_keyset (keySkips (some value))⟩,
    fun elsewhere behindKey behindPlanned => ?_⟩
  have behind := selects_only_given keyed arranges last isKey behindPlanned
  rwa [Nat.sub_add_cancel someSkipped] at behind

/-- The last page of three rows that are stored in no order, where two are asked for at a time. -/
theorem keyset_agrees_last_page :
    let database : Database (Int × String) Int :=
      { rows := fun table => if table.name = "t" then [(30, "c"), (-10, "a"), (20, "b")] else []
        cell := fun column row => if column = "Id" then some row.1 else none
        value := fun param => match param with
          | .int value => some value.toInt
          | _ => none }
    let table : TableRef := ⟨none, "t"⟩
    Keyed (database.cell (Text.trimmed " Id ")) (database.rows table) ∧ Mode.keyset ≠ .none ∧
      ∃ planned, plan .sqlServer ⟨.keyset, 2, .index 1, " Id ", none⟩
          (Dialect.sqlServer.quoteTable table) = .ok planned ∧
        ∃ arranged skip byPosition byKey, PagesAgree database .sqlServer table " Id " 2 (.index 1)
          none arranged skip byPosition byKey := by
  intro database table
  have keyed : Keyed (database.cell (Text.trimmed " Id ")) (database.rows table) :=
    ⟨by decide +kernel, by decide +kernel⟩
  exact ⟨keyed, Mode.noConfusion, _, rfl, keyset_agrees database .sqlServer table " Id " keyed 2
    (.index 1) .keyset Mode.noConfusion none none _ rfl⟩

end SqlAccess.Page
