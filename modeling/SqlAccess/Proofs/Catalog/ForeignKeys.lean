import SqlAccess.Proofs.Connection.Inquiries
import SqlAccess.Proofs.Decimal.Digits

/-!
# References of SQLite

SQLite lists the references of a table in rows, one for each pair of columns. A row may leave out
the column that it points to; then it points into the primary key of the other table, at the place
that it has in its own reference. Main statement: a question for the references gives one for each
row and in the order of the rows, or the first error among the answers to the queries for primary
keys. Such a query is asked for each row that leaves its target out and for no other.

The rows are gone through once, and what one row does is said first: it has its target itself or
takes it from one query, or the query fails and nothing else is asked. From then on the answers are
counted and no longer the calls: the answer for a row is the one at the place that the row has among
those without a target.
-/

namespace SqlAccess.Catalog

/-- A row that leaves out the column that it points to. -/
def omitsTarget (row : Row) : Bool := (Row.text? row "to_column").isNone

/-- The query for the primary key of the table that a row points to. -/
def keyQuery (row : Row) : Command := .query primaryKeyQuery [.string (textOf row "to_table")]

/-- What a driver answers to these queries, when they are asked one after the other. -/
def keyAnswers (driver : Driver) : List Row → List (Except Error (List Row))
  | [] => []
  | row :: rest =>
    driver.now.query primaryKeyQuery [.string (textOf row "to_table")] ::
      keyAnswers (driver.after 1) rest

variable {driver : Driver} {table : TableRef} {row : Row} {rows rest : List Row}

section Steps

/-- A row with a target asks nothing. -/
theorem sqlite_foreign_keys_given {column : String}
    (given : Row.text? row "to_column" = some column) :
    sqliteForeignKeys table (row :: rest) driver =
      let others := sqliteForeignKeys table rest driver
      ⟨others.result.map (sqliteForeignKey table row column :: ·), others.commands⟩ := by
  have target : targetColumn row = pure column := by
    rw [targetColumn, given]
  rw [sqliteForeignKeys, target, Work.answer_and_then]
  exact Work.and_then_pure _ _ driver

/-- A row without a target asks for the primary key of the other table. -/
theorem target_column_omitted (driver : Driver) (omitted : Row.text? row "to_column" = none) :
    targetColumn row driver =
      ⟨(driver.now.query primaryKeyQuery [.string (textOf row "to_table")]).map
        fun columns => keyColumnAt columns (numberOf row "seq"), [keyQuery row]⟩ := by
  rw [targetColumn, omitted]
  exact Work.and_then_pure (Work.query primaryKeyQuery _) _ driver

/-- A row whose query is answered points to the place in the answer, and the other rows come
after it. -/
theorem sqlite_foreign_keys_omitted (omitted : Row.text? row "to_column" = none)
    {columns : List Row}
    (told : driver.now.query primaryKeyQuery [.string (textOf row "to_table")] = .ok columns) :
    sqliteForeignKeys table (row :: rest) driver =
      let others := sqliteForeignKeys table rest (driver.after 1)
      ⟨others.result.map
          (sqliteForeignKey table row (keyColumnAt columns (numberOf row "seq")) :: ·),
        keyQuery row :: others.commands⟩ := by
  have asked := target_column_omitted driver omitted
  rw [told] at asked
  have result : (targetColumn row driver).result =
      .ok (keyColumnAt columns (numberOf row "seq")) := by
    rw [asked]
    rfl
  rw [sqliteForeignKeys, Work.and_then_of_ok _ _ driver _ result, asked]
  dsimp only [List.length_singleton, List.singleton_append]
  rw [Work.and_then_pure]

/-- Where the query of a row fails, nothing else is asked. -/
theorem sqlite_foreign_keys_failed (omitted : Row.text? row "to_column" = none) {error : Error}
    (told : driver.now.query primaryKeyQuery [.string (textOf row "to_table")] = .error error) :
    sqliteForeignKeys table (row :: rest) driver = ⟨.error error, [keyQuery row]⟩ := by
  have asked := target_column_omitted driver omitted
  rw [told] at asked
  have result : (targetColumn row driver).result = .error error := by
    rw [asked]
    rfl
  rw [sqliteForeignKeys, Work.and_then_of_error _ _ driver _ result, asked]

end Steps

section Runs

/-- The references of rows, when the queries for primary keys are answered with the columns of a
key each. -/
inductive Resolved (table : TableRef) : List Row → List (List Row) → List ForeignKey → Prop
  | nothing : Resolved table [] [] []
  | given {row : Row} {rows : List Row} {answers : List (List Row)} {references : List ForeignKey}
    {column : String} (given : Row.text? row "to_column" = some column)
    (others : Resolved table rows answers references) :
    Resolved table (row :: rows) answers (sqliteForeignKey table row column :: references)
  | omitted {row : Row} {rows : List Row} {answers : List (List Row)}
    {references : List ForeignKey} {columns : List Row}
    (omitted : Row.text? row "to_column" = none) (others : Resolved table rows answers references) :
    Resolved table (row :: rows) (columns :: answers)
      (sqliteForeignKey table row (keyColumnAt columns (numberOf row "seq")) :: references)

/-- A row with a target is none of those that leave it out. -/
theorem filter_given {column : String} (given : Row.text? row "to_column" = some column) :
    (row :: rest).filter omitsTarget = rest.filter omitsTarget := by
  rw [List.filter_cons_of_neg]
  simp [omitsTarget, given]

/-- A row without a target is the first of them. -/
theorem filter_omitted (omitted : Row.text? row "to_column" = none) :
    (row :: rest).filter omitsTarget = row :: rest.filter omitsTarget := by
  rw [List.filter_cons_of_pos]
  simp [omitsTarget, omitted]

/-- Where all queries are answered, all references are resolved. -/
theorem sqlite_foreign_keys_answered (table : TableRef) {answers : List (List Row)}
    (told : keyAnswers driver (rows.filter omitsTarget) = answers.map .ok) :
    ∃ references, sqliteForeignKeys table rows driver =
        ⟨.ok references, (rows.filter omitsTarget).map keyQuery⟩ ∧
      Resolved table rows answers references := by
  induction rows generalizing driver answers with
  | nil =>
    obtain rfl := List.map_eq_nil_iff.mp told.symm
    exact ⟨[], rfl, .nothing⟩
  | cons row rest inductionHypothesis =>
    cases target : Row.text? row "to_column" with
    | some column =>
      rw [filter_given target] at told ⊢
      obtain ⟨references, outcome, resolved⟩ := inductionHypothesis told
      refine ⟨_, ?_, .given target resolved⟩
      rw [sqlite_foreign_keys_given target, outcome]
      rfl
    | none =>
      rw [filter_omitted target] at told ⊢
      obtain ⟨columns, others, rfl, first, behind⟩ := List.map_eq_cons_iff.mp told.symm
      obtain ⟨references, outcome, resolved⟩ := inductionHypothesis behind.symm
      refine ⟨_, ?_, .omitted target resolved⟩
      rw [sqlite_foreign_keys_omitted target first.symm, outcome]
      rfl

/-- Where a query fails, so does the question, and no query is asked after it. -/
theorem sqlite_foreign_keys_broken {answers : List (List Row)} {error : Error}
    {behind : List (Except Error (List Row))}
    (told : keyAnswers driver (rows.filter omitsTarget) =
      answers.map .ok ++ .error error :: behind) :
    sqliteForeignKeys table rows driver =
      ⟨.error error, ((rows.filter omitsTarget).take (answers.length + 1)).map keyQuery⟩ := by
  induction rows generalizing driver answers with
  | nil => exact absurd told.symm (List.append_ne_nil_of_right_ne_nil _ (List.cons_ne_nil _ _))
  | cons row rest inductionHypothesis =>
    cases target : Row.text? row "to_column" with
    | some column =>
      rw [filter_given target] at told ⊢
      rw [sqlite_foreign_keys_given target, inductionHypothesis told]
      rfl
    | none =>
      rw [filter_omitted target] at told ⊢
      cases answers with
      | nil =>
        obtain ⟨first, _⟩ := List.cons.inj told
        rw [sqlite_foreign_keys_failed target first]
        simp
      | cons columns others =>
        obtain ⟨first, later⟩ := List.cons.inj told
        rw [sqlite_foreign_keys_omitted target first, inductionHypothesis later]
        rfl

/-- A list of answers has errors in it or has none. -/
theorem all_ok_or_error {α : Type} (answers : List (Except Error α)) :
    (∃ values : List α, answers = values.map .ok) ∨
      ∃ (values : List α) (error : Error) (behind : List (Except Error α)),
        answers = values.map .ok ++ .error error :: behind := by
  induction answers with
  | nil => exact .inl ⟨[], rfl⟩
  | cons first rest inductionHypothesis =>
    cases first with
    | error error => exact .inr ⟨[], error, rest, rfl⟩
    | ok value =>
      rcases inductionHypothesis with ⟨values, rfl⟩ | ⟨values, error, behind, rfl⟩
      · exact .inl ⟨value :: values, rfl⟩
      · exact .inr ⟨value :: values, error, behind, rfl⟩

end Runs

section Places

variable {answers : List (List Row)} {references : List ForeignKey} {place : Nat}

/-- There is one reference for each row. -/
theorem Resolved.length_eq (resolved : Resolved table rows answers references) :
    references.length = rows.length := by
  induction resolved with
  | nothing => rfl
  | given _ _ inductionHypothesis => simp [inductionHypothesis]
  | omitted _ _ inductionHypothesis => simp [inductionHypothesis]

/-- The reference at the place of a row is that of the row. Its target is the row's own; where there
is none, it is read from the answer that stands as far behind as rows without a target stand in
front. -/
theorem Resolved.at_place (resolved : Resolved table rows answers references)
    (found : rows[place]? = some row) :
    ∃ toColumn, references[place]? = some (sqliteForeignKey table row toColumn) ∧
      (∀ column, Row.text? row "to_column" = some column → toColumn = column) ∧
      (Row.text? row "to_column" = none →
        ∃ columns, answers[(rows.take place).countP omitsTarget]? = some columns ∧
          toColumn = keyColumnAt columns (numberOf row "seq")) := by
  induction resolved generalizing place with
  | nothing => cases found
  | @given first rest answers references column given _ inductionHypothesis =>
    cases place with
    | zero =>
      obtain rfl := Option.some.inj found
      refine ⟨column, rfl, ?_, ?_⟩
      · intro other alsoGiven
        exact Option.some.inj (given.symm.trans alsoGiven)
      · intro omitted
        rw [given] at omitted
        cases omitted
    | succ place =>
      have counts : ((first :: rest).take (place + 1)).countP omitsTarget =
          (rest.take place).countP omitsTarget := by
        rw [List.take_succ_cons, List.countP_cons_of_neg]
        simp [omitsTarget, given]
      rw [counts]
      exact inductionHypothesis found
  | @omitted first rest answers references columns omitted _ inductionHypothesis =>
    cases place with
    | zero =>
      obtain rfl := Option.some.inj found
      refine ⟨_, rfl, ?_, ?_⟩
      · intro other given
        rw [omitted] at given
        cases given
      · intro _
        exact ⟨columns, rfl, rfl⟩
    | succ place =>
      have counts : ((first :: rest).take (place + 1)).countP omitsTarget =
          (rest.take place).countP omitsTarget + 1 := by
        rw [List.take_succ_cons, List.countP_cons_of_pos]
        simp [omitsTarget, omitted]
      rw [counts, List.getElem?_cons_succ]
      exact inductionHypothesis found

/-- A place inside of a key has the name of the column there. -/
theorem key_column_at_inside {columns : List Row} {seq : Int} {column : Row} (counted : 0 ≤ seq)
    (inside : columns[seq.toNat]? = some column) :
    keyColumnAt columns seq = textOf column "name" := by
  rw [keyColumnAt, if_neg (Int.not_lt.mpr counted), inside]

/-- A place outside of a key has no name. -/
theorem key_column_at_outside {columns : List Row} {seq : Int}
    (outside : seq < 0 ∨ columns.length ≤ seq) : keyColumnAt columns seq = "" := by
  rw [keyColumnAt]
  split
  · rfl
  · rename_i counted
    have behind : columns[seq.toNat]? = none := by
      rw [List.getElem?_eq_none_iff]
      omega
    rw [behind]

/-- References of one table have the same name when they have the same number. -/
theorem constraint_name_eq_iff (other : Row) (toColumn otherColumn : String) :
    (sqliteForeignKey table row toColumn).constraintName =
        (sqliteForeignKey table other otherColumn).constraintName ↔
      numberOf row "id" = numberOf other "id" := by
  constructor
  · intro same
    have texts := congrArg String.toList same
    simp only [sqliteForeignKey, String.toList_append, Decimal.intText,
      String.toList_ofList] at texts
    exact Decimal.of_int_injective (List.append_cancel_left texts)
  · intro same
    simp only [sqliteForeignKey, same]

/-- What the references of a table have to do with its rows, place by place. The answers are those
to the queries for primary keys. -/
structure ByPlace (table : TableRef) (rows : List Row) (answers : List (List Row))
    (references : List ForeignKey) : Prop where
  /-- There is one reference for each row. -/
  length : references.length = rows.length
  /-- The number, the column and the other table are those of the row. -/
  source : ∀ (place : Nat) (row : Row) (reference : ForeignKey), rows[place]? = some row →
    references[place]? = some reference →
    reference.id = Int64.ofInt (numberOf row "id") ∧
      reference.fromColumn = textOf row "from_column" ∧ reference.toTable = textOf row "to_table"
  /-- A target that is given is taken. -/
  given : ∀ (place : Nat) (row : Row) (reference : ForeignKey) (column : String),
    rows[place]? = some row → references[place]? = some reference →
    Row.text? row "to_column" = some column → reference.toColumn = column
  /-- A target that is left out is the column of the other table's key at the place that the row
  has in its reference. A place before the first column or behind the last one gives no name. -/
  omitted : ∀ (place : Nat) (row : Row) (reference : ForeignKey), rows[place]? = some row →
    references[place]? = some reference → Row.text? row "to_column" = none →
    ∃ columns, answers[(rows.take place).countP omitsTarget]? = some columns ∧
      (∀ column, 0 ≤ numberOf row "seq" →
        columns[(numberOf row "seq").toNat]? = some column →
        reference.toColumn = textOf column "name") ∧
      (numberOf row "seq" < 0 ∨ columns.length ≤ numberOf row "seq" → reference.toColumn = "")
  /-- References share their name when their rows share their number. -/
  shared : ∀ (place otherPlace : Nat) (row other : Row) (reference otherReference : ForeignKey),
    rows[place]? = some row → rows[otherPlace]? = some other →
    references[place]? = some reference → references[otherPlace]? = some otherReference →
    (reference.constraintName = otherReference.constraintName ↔
      numberOf row "id" = numberOf other "id")
  /-- Where 64 bits hold the numbers, these are the numbers of the references. -/
  sharedId : ∀ (place otherPlace : Nat) (row other : Row) (reference otherReference : ForeignKey),
    rows[place]? = some row → rows[otherPlace]? = some other →
    references[place]? = some reference → references[otherPlace]? = some otherReference →
    Decimal.fitsSigned 64 (numberOf row "id") = true →
    Decimal.fitsSigned 64 (numberOf other "id") = true →
    (reference.constraintName = otherReference.constraintName ↔
      reference.id = otherReference.id)

/-- Resolved references are those of their rows, place by place. -/
theorem Resolved.by_place (resolved : Resolved table rows answers references) :
    ByPlace table rows answers references := by
  have reads (place : Nat) (row : Row) (reference : ForeignKey) (found : rows[place]? = some row)
      (there : references[place]? = some reference) :
      ∃ toColumn, reference = sqliteForeignKey table row toColumn := by
    obtain ⟨toColumn, same, _⟩ := resolved.at_place found
    exact ⟨toColumn, Option.some.inj (there.symm.trans same)⟩
  constructor
  · exact resolved.length_eq
  · intro place row reference found there
    obtain ⟨toColumn, rfl⟩ := reads place row reference found there
    exact ⟨rfl, rfl, rfl⟩
  · intro place row reference column found there given
    obtain ⟨toColumn, same, taken, _⟩ := resolved.at_place found
    obtain rfl := Option.some.inj (there.symm.trans same)
    exact taken column given
  · intro place row reference found there omitted
    obtain ⟨toColumn, same, _, asked⟩ := resolved.at_place found
    obtain rfl := Option.some.inj (there.symm.trans same)
    obtain ⟨columns, answered, rfl⟩ := asked omitted
    refine ⟨columns, answered, ?_, ?_⟩
    · intro column counted inside
      exact key_column_at_inside counted inside
    · intro outside
      exact key_column_at_outside outside
  · intro place otherPlace row other reference otherReference found alsoFound there alsoThere
    obtain ⟨toColumn, rfl⟩ := reads place row reference found there
    obtain ⟨otherColumn, rfl⟩ := reads otherPlace other otherReference alsoFound alsoThere
    exact constraint_name_eq_iff other toColumn otherColumn
  · intro place otherPlace row other reference otherReference found alsoFound there alsoThere
      fits otherFits
    obtain ⟨toColumn, rfl⟩ := reads place row reference found there
    obtain ⟨otherColumn, rfl⟩ := reads otherPlace other otherReference alsoFound alsoThere
    rw [constraint_name_eq_iff]
    constructor
    · intro same
      simp only [sqliteForeignKey, same]
    · intro same
      have numbers := congrArg Int64.toInt same
      rwa [sqliteForeignKey, sqliteForeignKey, Decimal.to_int_of_int_of_fits fits,
        Decimal.to_int_of_int_of_fits otherFits] at numbers

end Places

/-- What becomes of the rows of a table when a driver is asked for the keys that they leave out. -/
inductive Follows (driver : Driver) (table : TableRef) (rows : List Row) :
    Outcome (List ForeignKey) → Prop
  /-- All keys are told. One query is asked for each row without a target. -/
  | answered {answers : List (List Row)} {references : List ForeignKey}
    (told : keyAnswers driver (rows.filter omitsTarget) = answers.map .ok)
    (resolved : ByPlace table rows answers references) :
    Follows driver table rows ⟨.ok references, (rows.filter omitsTarget).map keyQuery⟩
  /-- The first query that fails is the last one, and its error is all that is given. -/
  | failed {answers : List (List Row)} {error : Error} {behind : List (Except Error (List Row))}
    (told : keyAnswers driver (rows.filter omitsTarget) =
      answers.map .ok ++ .error error :: behind) :
    Follows driver table rows
      ⟨.error error, ((rows.filter omitsTarget).take (answers.length + 1)).map keyQuery⟩

/-- Rows are followed by one of the two, whatever the driver answers. -/
theorem follows (driver : Driver) (table : TableRef) (rows : List Row) :
    Follows driver table rows (sqliteForeignKeys table rows driver) := by
  rcases all_ok_or_error (keyAnswers driver (rows.filter omitsTarget)) with
    ⟨answers, told⟩ | ⟨answers, error, behind, told⟩
  · obtain ⟨references, outcome, resolved⟩ := sqlite_foreign_keys_answered table told
    rw [outcome]
    exact .answered told resolved.by_place
  · rw [sqlite_foreign_keys_broken told]
    exact .failed told

/-- The rows of an entry are asked for by one query, and the keys after it. -/
theorem foreign_keys_of_sqlite (listed :
      driver.now.query (foreignKeysQuery .sqlite) [.string table.name] = .ok rows) :
    foreignKeysOf .sqlite table driver =
      let outcome := sqliteForeignKeys table rows (driver.after 1)
      ⟨outcome.result,
        .query (foreignKeysQuery .sqlite) [.string table.name] :: outcome.commands⟩ := by
  have asked : Work.query (foreignKeysQuery .sqlite) (tableParams .sqlite table) driver =
      ⟨.ok rows, [.query (foreignKeysQuery .sqlite) [.string table.name]]⟩ := by
    rw [Work.query, tableParams, defaultSchema, listed]
  rw [foreignKeysOf, Work.and_then_of_ok _ _ driver rows (by rw [asked]), asked]
  rfl

end SqlAccess.Catalog

namespace SqlAccess.Handle

open Catalog

/-- A question for the references of a table of SQLite, on every handle that has a connection for it
and with every driver. When the entry is found and its rows are read, the keys that the rows leave
out are asked for one by one, and what becomes of them is the answer.

Proof: the work on an entry is followed row by row, by induction on the rows. A row that leaves its
key out is answered by one more question, and the first question that fails ends the work; looking
up the entry is what every question about a table begins with. -/
theorem foreign_keys_resolved {driver : Driver} {handle : Handle} {access : Access}
    (available : handle.access? driver = some access) (sqlite : handle.dialect = .sqlite)
    {name : String} {requested entry : TableRef} (named : TableName.parse name = .ok requested)
    (isFound : Inquiry.found driver handle access requested = .ok (some entry)) {rows : List Row}
    (listed : (driver.after (access.before.length + 1)).now.query (foreignKeysQuery .sqlite)
      [.string entry.name] = .ok rows) :
    ∃ outcome, Follows (driver.after (access.before.length + 2)) entry rows outcome ∧
      Handle.foreignKeys name driver handle =
        ⟨outcome.result,
          access.before ++
            (.query (tablesQuery .sqlite) [] ::
              .query (foreignKeysQuery .sqlite) [.string entry.name] ::
              outcome.commands).map (.sent access.number) ++
            access.behind,
          access.left⟩ := by
  refine ⟨_, follows _ entry rows, ?_⟩
  have asked : Handle.foreignKeys name driver handle =
      Inquiry.answered .foreignKeys driver handle access (.ok (some entry)) := by
    rw [← isFound]
    change Inquiry.ask .foreignKeys name driver handle = _
    exact Inquiry.ask_resolved available named
  have later : (driver.after (access.before.length + 1)).after 1 =
      driver.after (access.before.length + 2) := Driver.after_after driver _ 1
  have work := foreign_keys_of_sqlite listed
  rw [later] at work
  rw [asked]
  simp only [Inquiry.answered, sqlite, followUp, Inquiry.about, work]
  rfl

/-- A row of the list of references. -/
def referenceRow (id seq : Int) (toTable column : String) (toColumn : Json) : Row :=
  [("id", .int id), ("seq", .int seq), ("to_table", .string toTable),
    ("from_column", .string column), ("to_column", toColumn)]

/-- A reference with two columns, one with its target given, and two whose places are outside of the
key, on a connection that is held. -/
theorem foreign_keys_resolved_places :
    let rows := [referenceRow 0 0 "Parents" "a" .null, referenceRow 0 1 "Parents" "b" .null,
      referenceRow 1 0 "Codes" "c" (.string "Code"), referenceRow 2 (-1) "Parents" "d" .null,
      referenceRow 3 2 "Parents" "e" .null]
    let driver : Driver := fun call => Inquiry.alwaysRows
      (match call with
        | 0 => [[("name", .string "Orders")]]
        | 1 => rows
        | _ => [[("name", .string "First")], [("name", .string "Second")]]) call
    let handle : Handle := ⟨.sqlite, "sqlite:app.db", some 1, false, 1⟩
    (∃ outcome, Follows (driver.after 2) ⟨none, "Orders"⟩ rows outcome ∧
      Handle.foreignKeys "orders" driver handle =
        ⟨outcome.result,
          (.query (tablesQuery .sqlite) [] ::
            .query (foreignKeysQuery .sqlite) [.string "Orders"] ::
            outcome.commands).map (.sent 1), handle⟩) ∧
      (Handle.foreignKeys "orders" driver handle).result.map
          (List.map fun reference => (reference.constraintName, reference.toColumn)) =
        .ok [("fk_Orders_0", "First"), ("fk_Orders_0", "Second"), ("fk_Orders_1", "Code"),
          ("fk_Orders_2", ""), ("fk_Orders_3", "")] := by
  intro rows driver handle
  have available : handle.access? driver = some ⟨1, [], [], handle⟩ := rfl
  have named : TableName.parse "orders" = .ok ⟨none, "orders"⟩ := rfl
  have isFound : Inquiry.found driver handle ⟨1, [], [], handle⟩ ⟨none, "orders"⟩ =
      .ok (some ⟨none, "Orders"⟩) := rfl
  have listed : (driver.after 1).now.query (foreignKeysQuery .sqlite) [.string "Orders"] =
      .ok rows := rfl
  constructor
  · obtain ⟨outcome, follows, whole⟩ :=
      foreign_keys_resolved available rfl named isFound listed
    refine ⟨outcome, follows, ?_⟩
    rw [whole, List.nil_append, List.append_nil]
  · rfl

end SqlAccess.Handle
