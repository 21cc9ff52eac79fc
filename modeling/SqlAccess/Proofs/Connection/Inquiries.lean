import SqlAccess.Proofs.Catalog.Spelling
import SqlAccess.Proofs.Connection.Refusals

/-!
# Questions about a table

A table is asked for its columns, its references, its triggers, its definition or a page of its
rows. Its name is looked up in the list of tables first. Main statement: the list is the first thing
that is asked on the connection, and all that is asked afterwards, the answer and the handle that is
left depend on the entry that was found and no more on how the name was spelt. Without an entry
nothing else is asked. In a list whose names differ in lower case it does not matter either which of
the spellings without a schema is taken, as long as it is read as one name; the spellings that are
not are those in brackets that are cut at a dot.
-/

namespace SqlAccess

/-- What can be asked about a table. -/
inductive Inquiry where
  | columns
  | foreignKeys
  | triggers
  | definition
  | page (request : Page.Request)

/-- How a handle comes to a connection for one operation. -/
structure Access where
  /-- The connection that is used. -/
  number : Nat
  /-- The calls that open it, where it is not held. -/
  before : List Call
  /-- The calls that close it again. -/
  behind : List Call
  /-- The handle afterwards. -/
  left : Handle

namespace Handle

/-- The connection that there is for an operation: the one that is held, or one that the driver
opens. -/
def access? (driver : Driver) (handle : Handle) : Option Access :=
  match handle.connection with
  | some number => some ⟨number, [], [], handle⟩
  | none =>
    let number := handle.numbered + 1
    match driver.now.openConnection handle.connectionString with
    | .ok () =>
      some ⟨number, [.opening number handle.connectionString], [.sent number .close],
        { handle with numbered := number }⟩
    | .error _ => none

variable {α : Type} {driver : Driver} {handle : Handle} {access : Access}

/-- Work is done on the connection that there is. -/
theorem run_access (work : Work α) (available : handle.access? driver = some access) :
    run work driver handle =
      let outcome := work (driver.after access.before.length)
      ⟨outcome.result,
        access.before ++ outcome.commands.map (.sent access.number) ++ access.behind,
        access.left⟩ := by
  unfold access? at available
  split at available
  · rename_i held
    cases available
    simp [run_held work held]
  · rename_i free
    dsimp only at available
    split at available
    · rename_i opens
      cases available
      simp [run_free work free opens]
    · cases available

end Handle

namespace Catalog

/-- The entry that a parsed name stands for in the list of tables that a driver gives. -/
def found (dialect : Dialect) (driver : Driver) (requested : TableRef) :
    Except Error (Option TableRef) :=
  (driver.now.query (tablesQuery dialect) []).map fun rows =>
    TableName.resolve (defaultSchema dialect) (rows.filterMap (tableOfRow? dialect)) requested

/-- What is asked once the list of tables has been read, and what comes of it. -/
def followUp {α : Type} (missing : α) (work : TableRef → Work α) (driver : Driver) :
    Except Error (Option TableRef) → Outcome α
  | .error error => ⟨.error error, []⟩
  | .ok none => ⟨.ok missing, []⟩
  | .ok (some entry) => work entry driver

/-- The list of tables is asked for by one query. -/
theorem tables_eq (dialect : Dialect) (driver : Driver) :
    tables dialect driver =
      ⟨(driver.now.query (tablesQuery dialect) []).map fun rows =>
        rows.filterMap (tableOfRow? dialect), [.query (tablesQuery dialect) []]⟩ :=
  Work.and_then_pure (Work.query (tablesQuery dialect) []) _ driver

/-- Work about a name is the query for the list of tables, and what follows from the entry. -/
theorem with_table_eq {α : Type} {dialect : Dialect} {name : String} {requested : TableRef}
    (named : TableName.parse name = .ok requested) (missing : α) (work : TableRef → Work α)
    (driver : Driver) :
    withTable dialect name missing work driver =
      let outcome := followUp missing work (driver.after 1) (found dialect driver requested)
      ⟨outcome.result, .query (tablesQuery dialect) [] :: outcome.commands⟩ := by
  have listed := tables_eq dialect driver
  rw [with_table_named named, found]
  cases answered : driver.now.query (tablesQuery dialect) [] with
  | error error =>
    rw [answered] at listed
    rw [Work.and_then_of_error _ _ driver error (by rw [listed]; rfl), listed]
    rfl
  | ok rows =>
    rw [answered] at listed
    rw [Work.and_then_of_ok _ _ driver _ (by rw [listed]; rfl), listed]
    dsimp only [Except.map]
    cases TableName.resolve (defaultSchema dialect) (rows.filterMap (tableOfRow? dialect))
      requested <;> rfl

/-- Names without a schema that agree in lower case stand for the same entry of a list whose names
do not. -/
theorem found_congr {dialect : Dialect} {driver : Driver}
    (distinct : ∀ entries, (tables dialect driver).result = .ok entries →
      (entries.map fun entry => Text.lowered entry.name).Nodup)
    {name other : String} (alike : Text.lowered name = Text.lowered other) :
    found dialect driver ⟨none, name⟩ = found dialect driver ⟨none, other⟩ := by
  rw [tables_eq] at distinct
  unfold found
  cases answered : driver.now.query (tablesQuery dialect) [] with
  | error error => rfl
  | ok rows =>
    have differ := distinct _ (by rw [answered]; rfl)
    simp only [Except.map, TableName.resolve_congr differ alike]

end Catalog

namespace Inquiry

/-- What is given where the question is answered. -/
def Answer : Inquiry → Type
  | .columns => List Column
  | .foreignKeys => List ForeignKey
  | .triggers => List Trigger
  | .definition => Option String
  | .page _ => List Row

/-- Ask about a table by its name. -/
def ask : (inquiry : Inquiry) → String → Action inquiry.Answer
  | .columns, table => Handle.columns table
  | .foreignKeys, table => Handle.foreignKeys table
  | .triggers, table => Handle.triggers table
  | .definition, table => Handle.tableDefinition table
  | .page request, table => Handle.queryPage table request

/-- The answer where there is no such table: an empty list, no definition, no rows. -/
def missing : (inquiry : Inquiry) → inquiry.Answer
  | .columns | .foreignKeys | .triggers | .page _ => []
  | .definition => none

/-- What is asked about an entry of the catalog. -/
def about : (inquiry : Inquiry) → Dialect → TableRef → Work inquiry.Answer
  | .columns, dialect, entry => Catalog.columnsOf dialect entry
  | .foreignKeys, dialect, entry => Catalog.foreignKeysOf dialect entry
  | .triggers, dialect, entry => Catalog.triggersOf dialect entry
  | .definition, dialect, entry => Catalog.definitionOf dialect entry
  | .page request, dialect, entry => Catalog.pageOf dialect request entry

/-- All questions are put in one way. -/
theorem ask_eq (inquiry : Inquiry) (table : String) :
    inquiry.ask table = Handle.aboutTable table fun dialect =>
      Catalog.withTable dialect table inquiry.missing (inquiry.about dialect) := by
  cases inquiry <;> rfl

/-- A name that is parsed is not blank. -/
theorem visible_of_parse {table : String} {requested : TableRef}
    (named : TableName.parse table = .ok requested) : Text.isBlankText table = false := by
  by_contra blank
  rw [Bool.not_eq_false] at blank
  simp [TableName.parse, TableName.require, blank, bind, Except.bind] at named

variable {inquiry : Inquiry} {driver : Driver} {handle : Handle} {access : Access}

/-- A question on a connection: the list of tables is asked for, and then what follows from the
entry that is found in it. -/
def answered (inquiry : Inquiry) (driver : Driver) (handle : Handle) (access : Access)
    (found : Except Error (Option TableRef)) : Step inquiry.Answer :=
  let listing : Command := .query (Catalog.tablesQuery handle.dialect) []
  let outcome := Catalog.followUp inquiry.missing (inquiry.about handle.dialect)
    (driver.after (access.before.length + 1)) found
  ⟨outcome.result,
    access.before ++ (listing :: outcome.commands).map (.sent access.number) ++ access.behind,
    access.left⟩

/-- The entry that a parsed name stands for when a handle has its connection. -/
def found (driver : Driver) (handle : Handle) (access : Access) (requested : TableRef) :
    Except Error (Option TableRef) :=
  Catalog.found handle.dialect (driver.after access.before.length) requested

/-- A question about a parsed name is answered from the entry. -/
theorem ask_resolved (available : handle.access? driver = some access) {table : String}
    {requested : TableRef} (named : TableName.parse table = .ok requested) :
    inquiry.ask table driver handle =
      inquiry.answered driver handle access (found driver handle access requested) := by
  rw [ask_eq, Handle.about_table_eq_run (visible_of_parse named), Handle.run_access _ available,
    Catalog.with_table_eq named, Driver.after_after]
  rfl

/-- What a question about a table depends on, for a handle and the connection that there is for
it. -/
structure EntryOnly (inquiry : Inquiry) (driver : Driver) (handle : Handle) (access : Access) :
    Prop where
  /-- The list of tables is asked for first; the rest follows from the entry that is found. -/
  listedFirst : ∀ table requested, TableName.parse table = .ok requested →
    inquiry.ask table driver handle =
      inquiry.answered driver handle access (found driver handle access requested)
  /-- Where there is no entry, nothing else is asked. -/
  nothingElse : ∀ table requested, TableName.parse table = .ok requested →
    found driver handle access requested = .ok none →
    inquiry.ask table driver handle =
      ⟨.ok inquiry.missing, access.before ++
        [.sent access.number (.query (Catalog.tablesQuery handle.dialect) [])] ++ access.behind,
        access.left⟩
  /-- Names that stand for the same entry are asked about alike. -/
  sameEntry : ∀ first second requested other, TableName.parse first = .ok requested →
    TableName.parse second = .ok other →
    found driver handle access requested = found driver handle access other →
    inquiry.ask first driver handle = inquiry.ask second driver handle
  /-- So are names without a schema that agree in lower case, where the names of the list do
  not. -/
  sameLowered :
    (∀ entries, (Catalog.tables handle.dialect (driver.after access.before.length)).result =
      .ok entries → (entries.map fun entry => Text.lowered entry.name).Nodup) →
    ∀ first second name other, TableName.parse first = .ok ⟨none, name⟩ →
      TableName.parse second = .ok ⟨none, other⟩ → Text.lowered name = Text.lowered other →
      inquiry.ask first driver handle = inquiry.ask second driver handle
  /-- Which spellings of a name are read as such. -/
  readWhole : ∀ spelling name,
    TableName.Spells spelling name → Text.isBlankText name = false →
    (TableName.parse spelling = .ok ⟨none, name⟩ ↔
      (Text.trim spelling.toList = Text.Quoted.enclose '[' ']' name.toList →
        (TableName.afterBrackets name).isSome = true))

/-- Whatever is asked about a table, in every dialect, on every handle and with every driver that
has a connection for it, it is the entry that counts and not the spelling of the name.

Proof: to ask is to look the entry up and, where it is found, to do work that is given the entry and
nothing else. So two spellings with one entry give the same answer, and names that are told apart by
their letters only are resolved alike where the listed names are distinct in lower case. -/
theorem ask_entry_only (inquiry : Inquiry) (driver : Driver) (handle : Handle) (access : Access)
    (available : handle.access? driver = some access) :
    inquiry.EntryOnly driver handle access where
  listedFirst _ _ named := ask_resolved available named
  nothingElse _ _ named nothing := by
    rw [ask_resolved available named, nothing]
    rfl
  sameEntry _ _ _ _ named alsoNamed same := by
    rw [ask_resolved available named, ask_resolved available alsoNamed, same]
  sameLowered distinct _ _ _ _ named alsoNamed alike := by
    rw [ask_resolved available named, ask_resolved available alsoNamed, found, found,
      Catalog.found_congr distinct alike]
  readWhole _ _ spells named := TableName.parse_spelling spells named

/-- A driver that answers every query with the same rows. -/
def alwaysRows (rows : List Row) : Driver :=
  .steady
    ⟨fun _ => .ok (), fun _ _ => .ok rows, fun _ _ => .ok 0, .ok (), .ok (), .ok (), .ok none,
      .ok ()⟩

/-- The references of a table that is asked for in blanks and in brackets, on a connection that is
opened for it. -/
theorem ask_entry_only_spellings :
    let driver := alwaysRows [[("name", .string "Users")], [("name", .string "Orders")]]
    let handle := Handle.closed .sqlite "sqlite:app.db"
    let access : Access := ⟨1, [.opening 1 "sqlite:app.db"], [.sent 1 .close],
      { handle with numbered := 1 }⟩
    handle.access? driver = some access ∧
      ask .foreignKeys " users " driver handle = ask .foreignKeys "[USERS]" driver handle := by
  intro driver handle access
  have available : handle.access? driver = some access := rfl
  have entries : (Catalog.tables .sqlite driver).result =
      .ok [⟨none, "Users"⟩, ⟨none, "Orders"⟩] := rfl
  refine ⟨available, (ask_entry_only .foreignKeys driver handle access available).sameLowered
    ?_ _ _ "users" "USERS" (by rfl) (by rfl) (by decide)⟩
  intro others same
  obtain rfl := Except.ok.inj (entries.symm.trans same)
  decide

/-- A name that is spelt in double quotes is found, and spelt in brackets it is not: the closing
bracket in it ends them, and the dot behind it cuts the name. -/
theorem ask_cut_in_brackets :
    let driver := alwaysRows [[("table_schema", .string "dbo"), ("table_name", .string "a].b")]]
    let handle : Handle := ⟨.sqlServer, "Server=db;Database=app", some 1, false, 1⟩
    TableName.Spells "\"a].b\"" "a].b" ∧ TableName.Spells "[a]].b]" "a].b" ∧
      (TableName.parse "\"a].b\"").isOk = true ∧ (TableName.parse "[a]].b]").isOk = true ∧
      (Catalog.tables .sqlServer driver).result = .ok [⟨some "dbo", "a].b"⟩] ∧
      ask .columns "\"a].b\"" driver handle ≠ ask .columns "[a]].b]" driver handle := by
  intro driver handle
  refine ⟨.quoted ('"', '"') (by decide) _ _ rfl, .quoted ('[', ']') (by decide) _ _ rfl, rfl,
    rfl, rfl, fun same => ?_⟩
  have first : (ask .columns "\"a].b\"" driver handle).calls.length = 2 := rfl
  have second : (ask .columns "[a]].b]" driver handle).calls.length = 1 := rfl
  exact absurd (congrArg (fun step => step.calls.length) same) (by rw [first, second]; decide)

end Inquiry

end SqlAccess
