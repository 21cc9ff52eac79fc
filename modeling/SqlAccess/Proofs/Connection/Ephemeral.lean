import SqlAccess.Driver.Script
import SqlAccess.Proofs.Connection.StateMachine

/-!
# Connections of a single operation

Statements, queries, pages, metadata and the version need a connection for themselves only: each is
work on whatever connection there is. Main statement: on a closed handle such an operation gives
what it gives on a handle that holds a connection, and asks the same, between the call that opens a
connection of its own and the call that closes it. The handle stays closed. None of this depends on
what the driver answers once it has opened the connection, nor on whether it closes it.
-/

namespace SqlAccess

/-- The same call of another connection. -/
def Call.on (number : Nat) : Call → Call
  | .opening _ connectionString => .opening number connectionString
  | .sent _ command => .sent number command

/-- A driver that never changes its mind is the same after any calls. -/
@[simp]
theorem Driver.after_steady (answers : Answers) (calls : Nat) :
    (steady answers).after calls = steady answers := rfl

/-- Changing the value at the end of some work changes nothing else. -/
theorem Work.and_then_pure {α β : Type} (work : Work α) (change : α → β) (driver : Driver) :
    (work >>= fun value => pure (change value)) driver =
      ⟨(work driver).result.map change, (work driver).commands⟩ := by
  cases answered : (work driver).result with
  | error error =>
    rw [and_then_of_error work _ driver error answered]
    rfl
  | ok value =>
    rw [and_then_of_ok work _ driver value answered]
    simp only [pure, answer, List.append_nil, Except.map]

namespace Handle

variable {α β : Type} {driver : Driver} {handle : Handle} {number : Nat}

/-- Work on a held connection leaves the handle alone. -/
theorem run_held (work : Work α) (held : handle.connection = some number) :
    run work driver handle =
      ⟨(work driver).result, (work driver).commands.map (.sent number), handle⟩ := by
  simp only [run, held]

/-- Work on a closed handle is done between opening and closing, and uses up a number. -/
theorem run_free (work : Work α) (free : handle.connection = none)
    (opens : driver.now.openConnection handle.connectionString = .ok ()) :
    run work driver handle =
      ⟨(work (driver.after 1)).result,
        .opening (handle.numbered + 1) handle.connectionString ::
          ((work (driver.after 1)).commands ++ [Command.close]).map (.sent (handle.numbered + 1)),
        { handle with numbered := handle.numbered + 1 }⟩ := by
  simp only [run, free, dial, opens, Except.map, List.length_singleton, List.singleton_append]

/-- A value may be changed before or after the connection is let go. -/
theorem run_and_then_pure (work : Work α) (change : α → β) :
    (run work >>= fun value => pure (change value)) =
      run (work >>= fun value => pure (change value)) := by
  funext driver handle
  rw [Action.and_then_pure]
  cases held : handle.connection with
  | some number => simp only [run_held _ held, Work.and_then_pure]
  | none =>
    simp only [run, held, Work.and_then_pure]
    cases (dial handle.connectionString driver handle).result <;> rfl

/-- Work about a table whose name is not blank is work on a connection. -/
theorem about_table_eq_run {table : String} (named : Text.isBlankText table = false)
    (work : Dialect → Work α) (driver : Driver) (handle : Handle) :
    aboutTable table work driver handle = run (work handle.dialect) driver handle := by
  have accepted : TableName.require table = .ok () := by
    rw [TableName.require, named]
    rfl
  rw [aboutTable, accepted, Action.answer_ok_and_then, Action.current_and_then]

/-- The first row is found by work on a connection. -/
theorem query_first_eq_run (sql : String) (params : List Param) :
    queryFirst sql params = run (Work.query sql params >>= fun rows => pure rows.head?) :=
  run_and_then_pure (Work.query sql params) List.head?

/-- The first cell is found by work on a connection. -/
theorem query_scalar_eq_run (sql : String) (params : List Param) :
    queryScalar sql params =
      run ((Work.query sql params >>= fun rows => pure rows.head?) >>= fun row =>
        pure (row.bind fun row => row.head?.map (·.2))) := by
  rw [queryScalar, query_first_eq_run]
  exact run_and_then_pure _ _

end Handle

namespace Operation

/-- True for the operations that need a connection for themselves only. A name that is looked up
must not be blank. -/
def borrows : Operation → Bool
  | .execute _ _ | .query _ _ | .queryFirst _ _ | .queryScalar _ _ | .tables
  | .serverVersion => true
  | .queryPage table _ | .columns table | .foreignKeys table | .triggers table
  | .tableDefinition table => !Text.isBlankText table
  | _ => false

/-- Such an operation is work on whatever connection there is, the same for all handles of a
dialect. -/
theorem perform_eq_run {operation : Operation} (borrows : operation.borrows = true) :
    ∃ work : Dialect → Work operation.Answer, ∀ driver handle,
      operation.perform driver handle = Handle.run (work handle.dialect) driver handle := by
  have named {table : String} (asked : (!Text.isBlankText table) = true) :
      Text.isBlankText table = false := by simpa using asked
  cases operation with
  | execute sql params => exact ⟨fun _ => Work.execute sql params, fun _ _ => rfl⟩
  | query sql params => exact ⟨fun _ => Work.query sql params, fun _ _ => rfl⟩
  | queryFirst sql params =>
    exact ⟨fun _ => _, fun driver handle =>
      congrFun (congrFun (Handle.query_first_eq_run sql params) driver) handle⟩
  | queryScalar sql params =>
    exact ⟨fun _ => _, fun driver handle =>
      congrFun (congrFun (Handle.query_scalar_eq_run sql params) driver) handle⟩
  | tables => exact ⟨Catalog.tables, fun _ _ => rfl⟩
  | serverVersion => exact ⟨fun _ => Work.version, fun _ _ => rfl⟩
  | queryPage table request =>
    exact ⟨fun dialect => Catalog.page dialect request table,
      Handle.about_table_eq_run (named borrows) fun dialect => Catalog.page dialect request table⟩
  | columns table =>
    exact ⟨fun dialect => Catalog.columns dialect table,
      Handle.about_table_eq_run (named borrows) fun dialect => Catalog.columns dialect table⟩
  | foreignKeys table =>
    exact ⟨fun dialect => Catalog.foreignKeys dialect table,
      Handle.about_table_eq_run (named borrows) fun dialect => Catalog.foreignKeys dialect table⟩
  | triggers table =>
    exact ⟨fun dialect => Catalog.triggers dialect table,
      Handle.about_table_eq_run (named borrows) fun dialect => Catalog.triggers dialect table⟩
  | tableDefinition table =>
    exact ⟨fun dialect => Catalog.definition dialect table,
      Handle.about_table_eq_run (named borrows) fun dialect => Catalog.definition dialect table⟩
  | openConnection | closeConnection | beginTransaction | commit | rollback | changeDatabase _
  | createDatabase _ | info | foreach _ _ => exact absurd borrows Bool.false_ne_true

/-- On a closed handle an operation that needs a connection for itself only gives what it gives on
any handle of the dialect that holds one, and asks the same between opening and closing. The
handle that holds a connection meets the driver as it is once the other one is opened, which for
a driver that never changes its mind is the same driver.

Proof: an operation that needs a connection for itself only is one piece of work, which asks the
driver the same wherever it runs. A free handle runs it between opening and closing, a handle that
holds a connection runs it there; so the calls differ in their number alone. -/
theorem perform_closed_eq_held (operation : Operation) (borrows : operation.borrows = true)
    (driver : Driver) (handle : Handle) (free : handle.state = .closed)
    (opens : driver.now.openConnection handle.connectionString = .ok ())
    (other : Handle) (sameDialect : other.dialect = handle.dialect)
    (holds : other.state ≠ .closed) :
    let fresh := handle.numbered + 1
    let alone := operation.perform driver handle
    let inside := operation.perform (driver.after 1) other
    alone.result = inside.result ∧
      alone.calls = .opening fresh handle.connectionString ::
        (inside.calls.map (Call.on fresh) ++ [.sent fresh .close]) ∧
      alone.handle = { handle with numbered := fresh } ∧ alone.handle.state = .closed ∧
      inside.handle = other := by
  obtain ⟨work, performs⟩ := perform_eq_run borrows
  have unconnected : handle.connection = none := Handle.state_eq_closed.mp free
  obtain ⟨number, held⟩ := Option.ne_none_iff_exists'.mp fun none =>
    holds (Handle.state_eq_closed.mpr none)
  have renumbered (commands : List Command) :
      (commands.map (Call.sent number)).map (Call.on (handle.numbered + 1)) =
        commands.map (Call.sent (handle.numbered + 1)) := by
    rw [List.map_map]
    rfl
  simp only [performs, Handle.run_free _ unconnected opens, Handle.run_held _ held, sameDialect,
    renumbered, List.map_append, List.map_singleton, true_and, and_true]
  exact Handle.state_eq_closed.mpr unconnected

/-- The references of a table on a driver that fails the second query and the closing. -/
theorem perform_closed_eq_held_failing :
    let operation : Operation := .foreignKeys "[sales].[orders]"
    let listed : Row := [("table_schema", .string "sales"), ("table_name", .string "orders")]
    let script : Script :=
      { responses := [⟨"INFORMATION_SCHEMA.TABLES", none, .ok [listed]⟩,
          ⟨"sys.foreign_keys", some "orders", .error "connection reset"⟩]
        affected := 1
        version := none
        failures := { close := some "already gone" } }
    let handle := Handle.closed .sqlServer "server=tcp:db;database=shop"
    let other : Handle := ⟨.sqlServer, "server=tcp:db", some 4, true, 6⟩
    operation.borrows = true ∧ handle.state = .closed ∧
      script.driver.now.openConnection handle.connectionString = .ok () ∧
      other.dialect = handle.dialect ∧ other.state ≠ .closed ∧
      let alone := operation.perform script.driver handle
      let inside := operation.perform script.driver other
      alone.result = inside.result ∧
        alone.calls = .opening 1 "server=tcp:db;database=shop" ::
          (inside.calls.map (Call.on 1) ++ [.sent 1 .close]) ∧
        alone.handle = { handle with numbered := 1 } ∧ alone.handle.state = .closed ∧
        inside.handle = other :=
  ⟨by decide, rfl, rfl, rfl, by decide,
    perform_closed_eq_held _ (by decide) _ _ rfl rfl _ rfl (by decide)⟩

end Operation

end SqlAccess
