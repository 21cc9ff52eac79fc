import SqlAccess.Proofs.Batch.Transcript

/-!
# What is dialed

A step asks the driver for connections, each of some connection string. Main statement: an operation
that is given no other database asks for one connection at most, of the string of its handle, and
only while the handle holds none. The operations that name another database are told apart, because
they may ask for a connection of a string that they have written.
-/

namespace SqlAccess

/-- The string of the connection that a call asks for. -/
def Call.dialed? : Call → Option String
  | .opening _ connectionString => some connectionString
  | .sent _ _ => none

/-- The strings of the connections that a step asks for, in their order. -/
def Step.dialed {α : Type} (step : Step α) : List String := step.calls.filterMap Call.dialed?

namespace Operation

/-- True for the operations that are given the name of another database. -/
def namesDatabase : Operation → Bool
  | .changeDatabase _ | .createDatabase _ => true
  | _ => false

/-- True for the operations that ask for a connection of the string of a closed handle. To open the
handle looks at the string first; the others do not. -/
def dials (connectionString : String) : Operation → Bool
  | .openConnection => !Text.isBlankText connectionString
  | .info => true
  | operation => operation.borrows

end Operation

section Dialing

variable {α β : Type} {driver : Driver} {handle : Handle}

/-- Requests of connections dial nothing. -/
theorem filter_map_dialed?_sent (number : Nat) (commands : List Command) :
    (commands.map (Call.sent number)).filterMap Call.dialed? = [] := by
  rw [List.filterMap_map]
  exact List.filterMap_eq_nil_iff.mpr fun _ _ => rfl

/-- Where nothing is dialed afterwards, an action dials what its first part dials. -/
theorem Action.dialed_and_then {action : Action α} {next : α → Action β}
    (quiet : ∀ value driver handle, (next value driver handle).dialed = []) :
    ((action >>= next) driver handle).dialed = (action driver handle).dialed := by
  cases answered : (action driver handle).result with
  | error error =>
    rw [Action.and_then_of_error action next driver handle error answered]
    rfl
  | ok value =>
    rw [Action.and_then_of_ok action next driver handle value answered]
    dsimp only [Step.dialed]
    rw [List.filterMap_append]
    exact (congrArg _ (quiet value _ _)).trans (List.append_nil _)

namespace Handle

/-- Work on a closed handle dials the string of the handle, whatever that is. -/
theorem run_dialed (work : Work α) :
    (run work driver handle).dialed =
      if handle.connection.isNone then [handle.connectionString] else [] := by
  cases held : handle.connection with
  | some number =>
    rw [run_held work held]
    exact filter_map_dialed?_sent number _
  | none =>
    simp only [run, held, dial]
    cases driver.now.openConnection handle.connectionString with
    | error error => rfl
    | ok value => exact congrArg (List.cons _) (filter_map_dialed?_sent _ _)

/-- A closed handle whose string shows something is opened as the driver decides. -/
theorem open_connection_visible (free : handle.connection = none)
    (visible : Text.isBlankText handle.connectionString = false) :
    openConnection driver handle =
      let fresh := handle.numbered + 1
      let reply := driver.now.openConnection handle.connectionString
      ⟨reply, [.opening fresh handle.connectionString],
        { handle with
          connection := if reply.isOk then some fresh else none
          numbered := fresh }⟩ := by
  obtain ⟨dialect, connectionString, connection, transaction, numbered⟩ := handle
  subst free
  simp only [openConnection, visible, Bool.false_eq_true, if_false, dial]
  cases driver.now.openConnection connectionString <;> rfl

/-- To open a closed handle with a blank string is refused. -/
theorem open_connection_blank (free : handle.connection = none)
    (blank : Text.isBlankText handle.connectionString = true) :
    openConnection driver handle =
      ⟨.error (.configuration "connection string must not be empty"), [], handle⟩ := by
  simp only [openConnection, free, blank, if_true]

/-- To open a handle dials the string of a closed one, where it shows something. -/
theorem open_connection_dialed :
    (openConnection driver handle).dialed =
      if handle.connection.isNone && !Text.isBlankText handle.connectionString then
        [handle.connectionString]
      else [] := by
  cases held : handle.connection with
  | some number =>
    rw [open_connection_held held]
    rfl
  | none =>
    cases blank : Text.isBlankText handle.connectionString with
    | true =>
      rw [open_connection_blank held blank]
      rfl
    | false =>
      rw [open_connection_visible held blank]
      rfl

/-- To close a handle dials nothing. -/
theorem close_connection_dialed (driver : Driver) (handle : Handle) :
    (closeConnection driver handle).dialed = [] := by
  unfold closeConnection
  split
  · rfl
  · exact filter_map_dialed?_sent _ _

/-- What begins a transaction dials nothing. -/
theorem begin_transaction_dialed : (beginTransaction driver handle).dialed = [] := by
  unfold beginTransaction
  repeat' split
  all_goals rfl

/-- What ends a transaction dials nothing either. -/
theorem end_transaction_dialed (deed : String) (command : Command)
    (reply : Answers → Except Error Unit) :
    (endTransaction deed command reply driver handle).dialed = [] := by
  unfold endTransaction
  split <;> rfl

/-- To touch a database dials the string that is given. -/
theorem touch_dialed (connectionString : String) :
    (touch connectionString driver handle).dialed = [connectionString] := by
  simp only [touch, bind, Action.andThen, dial]
  cases driver.now.openConnection connectionString <;> rfl

end Handle

namespace Operation

/-- An iteration dials nothing: it wants a connection that is held. -/
theorem iteration_dialed (names : List String) (calls : List BatchCall) :
    (iteration names calls driver handle).dialed = [] := by
  rw [iteration, Action.current_and_then]
  cases started : Batch.start handle names with
  | error error =>
    rw [Action.answer_error_and_then]
    rfl
  | ok batch =>
    rw [Action.answer_ok_and_then]
    obtain ⟨held, _⟩ := Batch.of_start started
    obtain ⟨number, connected⟩ := Option.isSome_iff_exists.mp held
    refine List.filterMap_eq_nil_iff.mpr fun call member => ?_
    obtain ⟨command, rfl, _⟩ := Batch.iterate_sends connected calls batch driver call member
    rfl

/-- What is about a table borrows a connection where the name is not blank. -/
theorem borrows_of_table? {operation : Operation} {table : String}
    (about : operation.table? = some table) : operation.borrows = !Text.isBlankText table := by
  cases operation with
  | queryPage _ _ | columns _ | foreignKeys _ | triggers _ | tableDefinition _ =>
    cases about
    rfl
  | _ => cases about

/-- What is about a table and borrows none is refused. -/
theorem perform_blank_name {operation : Operation} {table : String}
    (unlent : operation.borrows = false) (about : operation.table? = some table) :
    ∃ message, operation.perform driver handle =
      ⟨.error (.configuration message), [], handle⟩ := by
  have blank : Text.isBlankText table = true := by
    rw [borrows_of_table? about] at unlent
    simpa using unlent
  refine ⟨"table name must not be empty", ?_⟩
  cases operation with
  | queryPage _ _ =>
    cases about
    rw [perform, Handle.queryPage]
    exact Handle.about_table_blank blank
  | columns _ =>
    cases about
    rw [perform, Handle.columns]
    exact Handle.about_table_blank blank
  | foreignKeys _ =>
    cases about
    rw [perform, Handle.foreignKeys]
    exact Handle.about_table_blank blank
  | triggers _ =>
    cases about
    rw [perform, Handle.triggers]
    exact Handle.about_table_blank blank
  | tableDefinition _ =>
    cases about
    rw [perform, Handle.tableDefinition]
    exact Handle.about_table_blank blank
  | _ => cases about

/-- An operation that is given no other database dials the string of a closed handle, if
anything. -/
theorem perform_dialed {operation : Operation} (here : operation.namesDatabase = false) :
    (operation.perform driver handle).dialed =
      if handle.connection.isNone && operation.dials handle.connectionString then
        [handle.connectionString]
      else [] := by
  have never {step : Step operation.Answer} (nothing : step.dialed = [])
      (idle : operation.dials handle.connectionString = false) :
      step.dialed =
        if handle.connection.isNone && operation.dials handle.connectionString then
          [handle.connectionString]
        else [] := by
    rw [nothing, idle, Bool.and_false]
    rfl
  cases borrows : operation.borrows with
  | true =>
    obtain ⟨work, performs⟩ := perform_eq_run borrows
    have asks : operation.dials handle.connectionString = true := by
      cases operation <;> first | exact borrows | cases borrows
    rw [performs, Handle.run_dialed, asks, Bool.and_true]
  | false =>
    cases operation with
    | openConnection => exact Handle.open_connection_dialed
    | info =>
      rw [dials, Bool.and_true]
      exact (Action.dialed_and_then fun _ _ _ => rfl).trans (Handle.run_dialed Work.version)
    | closeConnection => exact never (Handle.close_connection_dialed driver handle) rfl
    | beginTransaction => exact never Handle.begin_transaction_dialed rfl
    | commit => exact never (Handle.end_transaction_dialed _ _ _) rfl
    | rollback => exact never (Handle.end_transaction_dialed _ _ _) rfl
    | foreach names calls => exact never (iteration_dialed names calls) rfl
    | queryPage table _ | columns table | foreignKeys table | triggers table
    | tableDefinition table =>
      obtain ⟨message, refused⟩ := perform_blank_name borrows rfl
      rw [refused]
      exact never rfl borrows
    | changeDatabase _ | createDatabase _ => cases here
    | execute _ _ | query _ _ | queryFirst _ _ | queryScalar _ _ | tables | serverVersion =>
      cases borrows

end Operation

end Dialing

end SqlAccess
