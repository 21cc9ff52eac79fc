import SqlAccess.Catalog

/-!
# Work that leaves the connection alone

Work is plain when it asks for rows, for statements to be executed and for the version, but
never begins or ends a transaction and never closes the connection. Plain work followed by plain
work is plain, so the work of every operation is: what is known of an entry of the catalog is
looked up, which means that it is put together from queries, and what comes before it judges
a name or a page. Work is a lawful monad, so that it can be regrouped. Main statements: everything
that is asked about an entry is a look-up, and the commands of look-ups and of the work around them
are plain on every driver.
-/

namespace SqlAccess

/-- True for what neither ends the connection nor begins or ends a transaction. -/
def Command.isPlain : Command → Bool
  | .query _ _ | .execute _ _ | .version => true
  | .begin | .commit | .rollback | .close => false

namespace Work

variable {α β γ : Type}

/-- Giving a value on asks nothing in between. -/
theorem answer_and_then (value : α) (next : α → Work β) :
    (pure value >>= next) = next value := by
  funext driver
  rw [and_then_of_ok (pure value) next driver value rfl]
  simp only [pure, answer, List.length_nil, Driver.after_zero, List.nil_append]

/-- Giving on what some work gives is the work itself. -/
theorem and_then_answer (work : Work α) : (work >>= pure) = work := by
  funext driver
  cases answered : (work driver).result with
  | error error =>
    rw [and_then_of_error work pure driver error answered, ← answered]
  | ok value =>
    rw [and_then_of_ok work pure driver value answered]
    simp only [pure, answer, List.append_nil, ← answered]

/-- Three pieces of work follow each other, however they are grouped. -/
theorem and_then_assoc (work : Work α) (next : α → Work β) (last : β → Work γ) :
    ((work >>= next) >>= last) = (work >>= fun value => next value >>= last) := by
  funext driver
  cases first : (work driver).result with
  | error error =>
    have failed := and_then_of_error work next driver error first
    rw [and_then_of_error _ last driver error (congrArg Outcome.result failed), failed,
      and_then_of_error work _ driver error first]
  | ok value =>
    have went := and_then_of_ok work next driver value first
    rw [and_then_of_ok work _ driver value first]
    cases second : (next value (driver.after (work driver).commands.length)).result with
    | error error =>
      have result : ((work >>= next) driver).result = .error error := by rw [went, second]
      rw [and_then_of_error _ last driver error result, went]
      dsimp only
      rw [and_then_of_error (next value) last _ error second]
    | ok middle =>
      have result : ((work >>= next) driver).result = .ok middle := by rw [went, second]
      rw [and_then_of_ok _ last driver middle result, went]
      dsimp only
      rw [and_then_of_ok (next value) last _ middle second]
      simp only [List.length_append, Driver.after_after, List.append_assoc]

instance : LawfulMonad Work := LawfulMonad.mk' Work and_then_answer answer_and_then and_then_assoc

/-- All that the work asks is plain, whatever the driver answers. -/
def Plain (work : Work α) : Prop :=
  ∀ driver, ∀ command ∈ (work driver).commands, command.isPlain = true

/-- Work that asks nothing is plain. -/
theorem plain_answer (result : Except Error α) : Plain (answer result) := by
  intro driver command member
  exact absurd member List.not_mem_nil

/-- A value that is given back asks nothing. -/
theorem plain_pure (value : α) : Plain (pure value : Work α) := plain_answer (.ok value)

/-- A query is plain. -/
theorem plain_query (sql : String) (params : List Param) : Plain (query sql params) := by
  intro driver command member
  rw [List.mem_singleton.mp member]
  rfl

/-- The execution of a statement is plain. -/
theorem plain_execute (sql : String) (params : List Param) : Plain (execute sql params) := by
  intro driver command member
  rw [List.mem_singleton.mp member]
  rfl

/-- The question for the version is plain. -/
theorem plain_version : Plain version := by
  intro driver command member
  rw [List.mem_singleton.mp member]
  rfl

/-- Work is plain when both its parts are. After an error only the first part has asked. -/
theorem plain_bind {work : Work α} {next : α → Work β} (first : work.Plain)
    (second : ∀ value, (next value).Plain) : (work >>= next).Plain := by
  intro driver command member
  cases answered : (work driver).result with
  | error error =>
    rw [and_then_of_error work next driver error answered] at member
    exact first driver command member
  | ok value =>
    rw [and_then_of_ok work next driver value answered] at member
    rcases List.mem_append.mp member with earlier | later
    · exact first driver command earlier
    · exact second value _ command later

/-- Put together from queries and from what is made of their rows: work that judges nothing. -/
inductive Lookup : {α : Type} → Work α → Prop
  | pure {α : Type} (value : α) : Lookup (Pure.pure value)
  | query (sql : String) (params : List Param) : Lookup (Work.query sql params)
  | bind {α β : Type} {work : Work α} {next : α → Work β} (first : Lookup work)
      (second : ∀ value, Lookup (next value)) : Lookup (work >>= next)

/-- Looking things up is plain. -/
theorem Lookup.plain {work : Work α} (looksUp : Lookup work) : work.Plain := by
  induction looksUp with
  | pure value => exact plain_pure value
  | query sql params => exact plain_query sql params
  | bind _ _ first second => exact plain_bind first second

end Work

namespace Catalog

open Work

/-- The list of tables is found by a query. -/
theorem tables_lookup (dialect : Dialect) : Lookup (tables dialect) := by
  apply Lookup.bind (.query _ _)
  intro rows
  exact .pure _

/-- The columns of an entry are found by one query. -/
theorem columns_of_lookup (dialect : Dialect) (table : TableRef) :
    Lookup (columnsOf dialect table) := by
  apply Lookup.bind (.query _ _)
  intro rows
  exact .pure _

/-- The target of a reference is given, or found by a query for the key of the other table. -/
theorem target_column_lookup (row : Row) : Lookup (targetColumn row) := by
  unfold targetColumn
  split
  · exact .pure _
  · apply Lookup.bind (.query _ _)
    intro keys
    exact .pure _

/-- The references of a SQLite table, row by row. -/
theorem sqlite_foreign_keys_lookup (table : TableRef) (rows : List Row) :
    Lookup (sqliteForeignKeys table rows) := by
  induction rows with
  | nil => exact .pure []
  | cons row rest inductionHypothesis =>
    apply Lookup.bind (target_column_lookup row)
    intro toColumn
    apply Lookup.bind inductionHypothesis
    intro others
    exact .pure _

/-- The references of an entry. -/
theorem foreign_keys_of_lookup (dialect : Dialect) (table : TableRef) :
    Lookup (foreignKeysOf dialect table) := by
  apply Lookup.bind (.query _ _)
  intro rows
  cases dialect with
  | sqlite => exact sqlite_foreign_keys_lookup table rows
  | postgres => exact .pure _
  | sqlServer => exact .pure _

/-- The triggers of an entry are found by one query. -/
theorem triggers_of_lookup (dialect : Dialect) (table : TableRef) :
    Lookup (triggersOf dialect table) := by
  apply Lookup.bind (.query _ _)
  intro rows
  exact .pure _

/-- The definition of an entry is stored, or put together from its columns. -/
theorem definition_of_lookup (dialect : Dialect) (table : TableRef) :
    Lookup (definitionOf dialect table) := by
  cases dialect with
  | sqlite =>
    apply Lookup.bind (.query _ _)
    intro rows
    exact .pure _
  | postgres =>
    apply Lookup.bind (columns_of_lookup .postgres table)
    intro columns
    exact .pure _
  | sqlServer =>
    apply Lookup.bind (columns_of_lookup .sqlServer table)
    intro columns
    exact .pure _

/-- A name is looked up in the list of tables. -/
theorem resolve_plain (dialect : Dialect) (name : String) : (resolve dialect name).Plain := by
  apply plain_bind (plain_answer _)
  intro requested
  apply plain_bind (tables_lookup dialect).plain
  intro entries
  exact plain_pure _

/-- Work on an entry is plain with its look-up. -/
theorem with_table_plain {α : Type} (dialect : Dialect) (name : String) (missing : α)
    {work : TableRef → Work α} (plain : ∀ table, (work table).Plain) :
    (withTable dialect name missing work).Plain := by
  apply plain_bind (resolve_plain dialect name)
  intro found
  cases found with
  | none => exact plain_pure missing
  | some table => exact plain table

/-- The rows of a page are found by one query, once the page is planned. -/
theorem page_of_plain (dialect : Dialect) (request : Page.Request) (table : TableRef) :
    (pageOf dialect request table).Plain := by
  apply plain_bind (plain_answer _)
  intro plan
  exact plain_query _ _

end Catalog

end SqlAccess
