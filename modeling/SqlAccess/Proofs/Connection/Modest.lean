import SqlAccess.Proofs.Connection.Course
import SqlAccess.Proofs.Connection.PlainWork

/-!
# Modest actions

An action is modest when it is put together from looking at the handle, plain work on the held
connection or on one of its own, and connections that are opened and closed at once. Main
statements: every operation that is not about the connection itself is modest, a whole iteration
over tables among them; a modest action leaves what the handle holds, and it begins and ends no
transaction. What else holds of modest actions is proved by induction on how they are made.
-/

namespace SqlAccess

/-- Put together from plain work and from connections that come and go. -/
inductive Action.Modest : {α : Type} → Action α → Prop
  | answer {α : Type} (result : Except Error α) : Modest (Action.answer result)
  | current : Modest Action.current
  | run {α : Type} {work : Work α} (plain : work.Plain) : Modest (Handle.run work)
  | touch (connectionString : String) : Modest (Handle.touch connectionString)
  | attempt {α : Type} {action : Action α} (modest : Modest action) : Modest action.attempt
  | bind {α β : Type} {action : Action α} {next : α → Action β} (first : Modest action)
      (second : ∀ value, Modest (next value)) : Modest (action >>= next)

/-- Giving a value back is modest. -/
theorem Action.Modest.pure {α : Type} (value : α) : Modest (Pure.pure value : Action α) :=
  .answer (.ok value)

/-- The connection on which a call begins or ends a transaction. -/
def Call.transacts? : Call → Option Nat
  | .sent number .begin | .sent number .commit | .sent number .rollback => some number
  | _ => none

/-- A call begins or ends a transaction only on the connection it is about. -/
theorem Call.number_of_transacts? {call : Call} {number : Nat}
    (about : call.transacts? = some number) : call.number = number := by
  cases call with
  | opening asked connectionString => simp [transacts?] at about
  | sent asked command => cases command <;> simp_all [transacts?, Call.number]

/-- A plain command begins and ends no transaction. -/
theorem Call.transacts?_of_plain {command : Command} (plain : command.isPlain = true)
    (number : Nat) : (Call.sent number command).transacts? = none := by
  cases command <;> first | rfl | exact absurd plain Bool.false_ne_true

namespace Action.Modest

variable {α : Type} {action : Action α}

/-- Only the count of the numbers that were given can grow. -/
theorem still (modest : action.Modest) (driver : Driver) (handle : Handle) :
    ∃ numbered, (action driver handle).handle = { handle with numbered := numbered } := by
  induction modest generalizing driver handle with
  | answer result => exact ⟨handle.numbered, rfl⟩
  | current => exact ⟨handle.numbered, rfl⟩
  | run plain =>
    unfold Handle.run
    split
    · exact ⟨handle.numbered, rfl⟩
    · simp only [Handle.dial]
      split <;> exact ⟨handle.numbered + 1, rfl⟩
  | touch connectionString =>
    refine ⟨handle.numbered + 1, ?_⟩
    simp only [Handle.touch, Bind.bind, andThen, Handle.dial]
    split <;> rfl
  | attempt modest inductionHypothesis => exact inductionHypothesis driver handle
  | @bind _ _ action next first second firstStill secondStill =>
    obtain ⟨middle, left⟩ := firstStill driver handle
    cases answered : (action driver handle).result with
    | error error =>
      rw [and_then_of_error action next driver handle error answered]
      exact ⟨middle, left⟩
    | ok value =>
      rw [and_then_of_ok action next driver handle value answered]
      obtain ⟨numbered, last⟩ :=
        secondStill value (driver.after (action driver handle).calls.length)
          (action driver handle).handle
      refine ⟨numbered, last.trans ?_⟩
      rw [left]

/-- No call begins or ends a transaction. -/
theorem transacts?_eq_none (modest : action.Modest) (driver : Driver) (handle : Handle) :
    ∀ call ∈ (action driver handle).calls, call.transacts? = none := by
  have asked (number : Nat) (commands : List Command)
      (plain : ∀ command ∈ commands, command.isPlain = true) :
      ∀ call ∈ commands.map (Call.sent number), call.transacts? = none := by
    intro call member
    obtain ⟨command, inCommands, rfl⟩ := List.mem_map.mp member
    exact Call.transacts?_of_plain (plain command inCommands) number
  induction modest generalizing driver handle with
  | answer result => exact fun _ member => absurd member List.not_mem_nil
  | current => exact fun _ member => absurd member List.not_mem_nil
  | run plain =>
    unfold Handle.run
    split
    · exact asked _ _ (plain driver)
    · simp only [Handle.dial]
      split
      · simp [Call.transacts?]
      · intro call member
        simp only [List.map_append, List.mem_append, List.mem_singleton, List.map_cons,
          List.map_nil] at member
        rcases member with rfl | inCommands | rfl
        · rfl
        · exact asked _ _ (plain _) call inCommands
        · rfl
  | touch connectionString =>
    simp only [Handle.touch, Bind.bind, andThen, Handle.dial]
    split <;> simp [Call.transacts?]
  | attempt modest inductionHypothesis => exact inductionHypothesis driver handle
  | @bind _ _ action next first second firstNone secondNone =>
    cases answered : (action driver handle).result with
    | error error =>
      rw [and_then_of_error action next driver handle error answered]
      exact firstNone driver handle
    | ok value =>
      rw [and_then_of_ok action next driver handle value answered]
      intro call member
      rcases List.mem_append.mp member with earlier | later
      · exact firstNone driver handle call earlier
      · exact secondNone value _ _ call later

end Action.Modest

namespace Handle

open SqlAccess.Action

/-- Work about a table is as modest as plain work; a blank name calls nothing. -/
theorem about_table_modest {α : Type} (table : String) {work : Dialect → Work α}
    (plain : ∀ dialect, (work dialect).Plain) : Modest (aboutTable table work) := by
  apply Modest.bind (Modest.answer _)
  intro _
  apply Modest.bind Modest.current
  intro handle
  exact Modest.run (plain handle.dialect)

/-- Statements are plain work. -/
theorem execute_modest (sql : String) (params : List Param) : Modest (execute sql params) :=
  Modest.run (Work.plain_execute sql params)

/-- Queries are plain work. -/
theorem query_modest (sql : String) (params : List Param) : Modest (query sql params) :=
  Modest.run (Work.plain_query sql params)

/-- The first row is a query's. -/
theorem query_first_modest (sql : String) (params : List Param) :
    Modest (queryFirst sql params) := by
  apply Modest.bind (query_modest sql params)
  intro rows
  exact Modest.pure _

/-- The first cell is a query's. -/
theorem query_scalar_modest (sql : String) (params : List Param) :
    Modest (queryScalar sql params) := by
  apply Modest.bind (query_first_modest sql params)
  intro row
  exact Modest.pure _

/-- The version is plain work. -/
theorem server_version_modest : Modest serverVersion := Modest.run Work.plain_version

/-- The list of tables is plain work. -/
theorem tables_modest : Modest tables := by
  apply Modest.bind Modest.current
  intro handle
  exact Modest.run (Catalog.tables_lookup handle.dialect).plain

/-- A page is plain work about a table. -/
theorem query_page_modest (table : String) (request : Page.Request) :
    Modest (queryPage table request) :=
  about_table_modest table fun dialect =>
    Catalog.with_table_plain dialect table [] (Catalog.page_of_plain dialect request)

/-- Columns are plain work about a table. -/
theorem columns_modest (table : String) : Modest (columns table) :=
  about_table_modest table fun dialect =>
    Catalog.with_table_plain dialect table [] fun entry =>
      (Catalog.columns_of_lookup dialect entry).plain

/-- References are plain work about a table. -/
theorem foreign_keys_modest (table : String) : Modest (foreignKeys table) :=
  about_table_modest table fun dialect =>
    Catalog.with_table_plain dialect table [] fun entry =>
      (Catalog.foreign_keys_of_lookup dialect entry).plain

/-- Triggers are plain work about a table. -/
theorem triggers_modest (table : String) : Modest (triggers table) :=
  about_table_modest table fun dialect =>
    Catalog.with_table_plain dialect table [] fun entry =>
      (Catalog.triggers_of_lookup dialect entry).plain

/-- A definition is plain work about a table. -/
theorem table_definition_modest (table : String) : Modest (tableDefinition table) :=
  about_table_modest table fun dialect =>
    Catalog.with_table_plain dialect table none fun entry =>
      (Catalog.definition_of_lookup dialect entry).plain

/-- Creating a database is modest, as a file that is touched and as a statement. -/
theorem create_database_modest (name : String) : Modest (createDatabase name) := by
  apply Modest.bind (Modest.answer _)
  intro _
  apply Modest.bind Modest.current
  intro handle
  have created (dialect : Dialect) :
      Modest (if handle.inTransaction then
          refuse (.transactionState "CREATE DATABASE cannot run inside a transaction")
        else do
          let _ ← execute ("CREATE DATABASE " ++ dialect.quoteIdentifier name) []) := by
    split
    · exact Modest.answer _
    · apply Modest.bind (execute_modest _ _)
      intro _
      exact Modest.pure ()
  cases known : handle.dialect with
  | sqlite =>
    apply Modest.bind (Modest.answer _)
    intro target
    exact Modest.touch target
  | postgres => exact created .postgres
  | sqlServer => exact created .sqlServer

/-- The summary asks for the version alone. -/
theorem info_modest : Modest info := by
  apply Modest.bind server_version_modest
  intro version
  apply Modest.bind Modest.current
  intro handle
  exact Modest.pure _

end Handle

namespace Batch

open SqlAccess.Action

/-- Every operation of a batch is an operation of the handle. -/
theorem perform_modest (operation : BatchOperation) (known : TableMetadata) (table : String) :
    Modest (perform operation known table) := by
  cases operation with
  | data request =>
    apply Modest.bind (Handle.query_page_modest table request)
    intro rows
    exact Modest.pure _
  | columns =>
    apply Modest.bind (Handle.columns_modest table)
    intro columns
    exact Modest.pure _
  | foreignKeys =>
    apply Modest.bind (Handle.foreign_keys_modest table)
    intro foreignKeys
    exact Modest.pure _
  | triggers =>
    apply Modest.bind (Handle.triggers_modest table)
    intro triggers
    exact Modest.pure _
  | definition =>
    apply Modest.bind (Handle.table_definition_modest table)
    intro definition
    exact Modest.pure _

/-- The operations on one table, in their order. -/
theorem perform_all_modest (table : String) (operations : List BatchOperation)
    (known : TableMetadata) : Modest (performAll table operations known) := by
  induction operations generalizing known with
  | nil => exact Modest.pure known
  | cons operation rest inductionHypothesis =>
    apply Modest.bind (perform_modest operation known table)
    intro asked
    exact inductionHypothesis asked

/-- The operations on all tables, table by table. -/
theorem run_tables_modest (operations : List BatchOperation) (tables : List String)
    (found : MetadataMap) : Modest (runTables operations tables found) := by
  induction tables generalizing found with
  | nil => exact Modest.pure found
  | cons table rest inductionHypothesis =>
    apply Modest.bind (perform_all_modest table operations _)
    intro asked
    exact inductionHypothesis _

/-- Sealed operations are modest. -/
theorem run_modest (tables : List String) (operations : List BatchOperation) :
    Modest (run tables operations) := by
  unfold run
  split
  · exact Modest.pure MetadataMap.empty
  · exact run_tables_modest operations tables .empty

/-- Each call of an iteration is modest. -/
theorem made_modest (call : BatchCall) (batch : Batch) : Modest (call.made batch) := by
  cases call with
  | begin =>
    rw [BatchCall.made_begin]
    exact Modest.pure _
  | finish =>
    rw [BatchCall.made_finish]
    exact Modest.pure _
  | push operation =>
    rw [BatchCall.made_push]
    exact Modest.pure _
  | materialize =>
    by_cases ready : ∃ operations, batch.phase = .closed ∧ batch.sealed = some operations
    · obtain ⟨operations, closed, pending⟩ := ready
      rw [BatchCall.made_sealed batch operations closed pending]
      apply Modest.bind (Modest.attempt (run_modest _ _))
      intro outcome
      exact Modest.pure _
    · have unsealed (closed : batch.phase = .closed) : batch.sealed = none := by
        cases pending : batch.sealed with
        | none => rfl
        | some operations => exact absurd ⟨operations, closed, pending⟩ ready
      rw [BatchCall.made_unsealed batch unsealed]
      exact Modest.pure _

/-- The calls of an iteration, one after another. -/
theorem iterate_modest (calls : List BatchCall) (batch : Batch) :
    Modest (batch.iterate calls) := by
  induction calls generalizing batch with
  | nil => exact Modest.pure batch
  | cons call rest inductionHypothesis =>
    apply Modest.bind (made_modest call batch)
    intro after
    exact inductionHypothesis after

end Batch

namespace Operation

open SqlAccess.Action

/-- True for the operations that are about the connection itself or the transaction on it. -/
def governs : Operation → Bool
  | .openConnection | .closeConnection | .beginTransaction | .commit | .rollback => true
  | .changeDatabase _ => true
  | _ => false

/-- A whole iteration over tables is modest. -/
theorem iteration_modest (names : List String) (calls : List BatchCall) :
    Modest (iteration names calls) := by
  apply Modest.bind Modest.current
  intro handle
  apply Modest.bind (Modest.answer _)
  intro batch
  exact Batch.iterate_modest calls batch

/-- All other operations are modest, whatever their arguments are. -/
theorem perform_modest (operation : Operation) (other : operation.governs = false) :
    Modest operation.perform := by
  cases operation with
  | openConnection | closeConnection | beginTransaction | commit | rollback =>
    exact Bool.noConfusion other
  | changeDatabase name => exact Bool.noConfusion other
  | execute sql params => exact Handle.execute_modest sql params
  | query sql params => exact Handle.query_modest sql params
  | queryFirst sql params => exact Handle.query_first_modest sql params
  | queryScalar sql params => exact Handle.query_scalar_modest sql params
  | queryPage table request => exact Handle.query_page_modest table request
  | tables => exact Handle.tables_modest
  | columns table => exact Handle.columns_modest table
  | foreignKeys table => exact Handle.foreign_keys_modest table
  | triggers table => exact Handle.triggers_modest table
  | tableDefinition table => exact Handle.table_definition_modest table
  | createDatabase name => exact Handle.create_database_modest name
  | serverVersion => exact Handle.server_version_modest
  | info => exact Handle.info_modest
  | foreach names calls => exact iteration_modest names calls

end Operation

end SqlAccess
