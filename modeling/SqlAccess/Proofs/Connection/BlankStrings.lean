import SqlAccess.Proofs.Connection.Dialing

/-!
# Blank connection strings

A connection string that is empty or shows nothing names no database. To open a handle, to write
the string of another database and to iterate over tables is refused with it before the driver is
asked. What borrows a connection does not look at the string: it asks the driver for a connection of
the blank string itself, and so do the summary of a handle and, on servers, the creation of a
database.

Main statement: over all courses of use from a new handle a blank string is handed to the driver by
exactly these operations. A course never turns a string that shows something into a blank one, and
with a blank one it never gets to hold a connection, so the string a handle was made with decides.
-/

namespace SqlAccess

/-- A call for a connection of a blank string. -/
def Call.opensBlank : Call → Bool
  | .opening _ connectionString => Text.isBlankText connectionString
  | .sent _ _ => false

/-- True where a step hands a blank string to the driver. -/
def Step.opensBlank {α : Type} (step : Step α) : Bool := step.calls.any Call.opensBlank

/-- A step on a closed handle that first of all asks for a connection of the string of the handle,
whatever that is, and ends with what the driver has against it. -/
structure Step.Dials {α : Type} (step : Step α) (driver : Driver) (handle : Handle) : Prop where
  asked : step.calls.head? = some (.opening (handle.numbered + 1) handle.connectionString)
  failed : ∀ error, driver.now.openConnection handle.connectionString = .error error →
    step.result = .error error

/-- A closed handle with a blank string. -/
structure Handle.Blank (handle : Handle) : Prop where
  free : handle.connection = none
  unmarked : handle.transaction = false
  blank : Text.isBlankText handle.connectionString = true

namespace Operation

/-- True for the operations that a closed handle carries out on a connection of its string without
a look at the string. -/
def unguarded (dialect : Dialect) : Operation → Bool
  | .info => true
  | .createDatabase name => dialect != .sqlite && DatabaseName.isValid name.toList
  | operation => operation.borrows

/-- True for the other operations that need a connection, or the string of one. -/
def guarded (dialect : Dialect) : Operation → Bool
  | .openConnection | .foreach _ _ => true
  | .changeDatabase name => DatabaseName.isValid name.toList
  | .createDatabase name => dialect == .sqlite && DatabaseName.isValid name.toList
  | _ => false

/-- What borrows does not look at the string. -/
theorem unguarded_of_borrows {operation : Operation} (borrows : operation.borrows = true)
    (dialect : Dialect) : operation.unguarded dialect = true := by
  cases operation <;> first | exact borrows | exact absurd borrows Bool.false_ne_true

end Operation

section Opening

variable {α β : Type} {driver : Driver} {handle : Handle}

/-- A step that dials a string, if anything, hands on a blank one where that is blank. -/
theorem opens_blank_of_dialed {step : Step α} {asks : Bool} {connectionString : String}
    (dialed : step.dialed = if asks then [connectionString] else []) :
    step.opensBlank = (asks && Text.isBlankText connectionString) := by
  have same : step.opensBlank = step.dialed.any Text.isBlankText := by
    rw [Step.opensBlank, Step.dialed, List.any_filterMap]
    congr 1
    funext call
    cases call <;> rfl
  rw [same, dialed]
  cases asks <;> simp

/-- With a blank string the operations that dial are those that do not look at it. -/
theorem Operation.dials_and_blank {operation : Operation} (here : operation.namesDatabase = false)
    (dialect : Dialect) (connectionString : String) :
    (operation.dials connectionString && Text.isBlankText connectionString) =
      (Text.isBlankText connectionString && operation.unguarded dialect) := by
  cases operation with
  | openConnection => exact (Bool.not_and_self _).trans (Bool.and_false _).symm
  | changeDatabase _ | createDatabase _ => cases here
  | _ => exact Bool.and_comm _ _

/-- No iteration starts on a closed handle. -/
theorem Batch.start_free (free : handle.connection = none) (names : List String) :
    ∃ message, Batch.start handle names = .error (.configuration message) := by
  unfold Batch.start
  split
  · exact ⟨_, rfl⟩
  · split
    · exact ⟨_, rfl⟩
    · rw [free]
      exact ⟨_, rfl⟩

/-- A step that has dialed has done so whatever follows. -/
theorem Action.dials_and_then {action : Action α} (next : α → Action β)
    (dials : (action driver handle).Dials driver handle) :
    ((action >>= next) driver handle).Dials driver handle := by
  cases answered : (action driver handle).result with
  | error error =>
    rw [Action.and_then_of_error action next driver handle error answered]
    refine ⟨dials.asked, fun reason refused => ?_⟩
    cases answered.symm.trans (dials.failed reason refused)
    rfl
  | ok value =>
    rw [Action.and_then_of_ok action next driver handle value answered]
    constructor
    · dsimp only
      rw [List.head?_append, dials.asked]
      rfl
    · intro error refused
      rw [dials.failed error refused] at answered
      cases answered

namespace Handle

/-- Work on a closed handle dials. -/
theorem run_dials (work : Work α) (free : handle.connection = none) :
    (run work driver handle).Dials driver handle := by
  simp only [run, free, dial]
  cases reply : driver.now.openConnection handle.connectionString with
  | error error =>
    refine ⟨rfl, fun reason refused => ?_⟩
    cases reply.symm.trans refused
    rfl
  | ok value =>
    refine ⟨rfl, fun reason refused => ?_⟩
    cases reply.symm.trans refused

/-- To change the database hands on no blank string: what is written for another database shows
something. -/
theorem change_database_opens_blank (name : String) :
    (changeDatabase name driver handle).opensBlank = false := by
  obtain ⟨_, refused⟩ | ⟨_, _, _, ⟨_, rewritten⟩ | ⟨_, _, reopened⟩⟩ :=
    change_database_cases driver handle name
  · rw [refused]
    rfl
  · rw [rewritten]
    rfl
  · rw [reopened]
    refine (opens_blank_of_dialed open_connection_dialed).trans ?_
    rw [Bool.and_assoc, Bool.not_and_self, Bool.and_false]

section CreateDatabase

variable {name : String}

/-- A name that is none is refused. -/
theorem create_database_misnamed {error : Error}
    (misnamed : DatabaseName.validate name = .error error) :
    createDatabase name driver handle = ⟨.error error, [], handle⟩ := by
  rw [createDatabase, misnamed]
  exact Action.answer_error_and_then _ _ _ _

/-- In SQLite a file is touched whose string is written. -/
theorem create_database_file (valid : DatabaseName.isValid name.toList = true)
    (file : handle.dialect = .sqlite) :
    createDatabase name driver handle =
      (Action.answer (ConnectionString.withDatabase handle.dialect handle.connectionString name) >>=
        touch) driver handle := by
  rw [createDatabase, DatabaseName.validate_eq_ok_iff.mpr valid, Action.answer_ok_and_then,
    Action.current_and_then]
  simp only [file]

/-- On a server nothing is created in a transaction. -/
theorem create_database_marked (valid : DatabaseName.isValid name.toList = true)
    (server : handle.dialect ≠ .sqlite) (marked : handle.transaction = true) :
    createDatabase name driver handle =
      ⟨.error (.transactionState "CREATE DATABASE cannot run inside a transaction"), [],
        handle⟩ := by
  rw [createDatabase, DatabaseName.validate_eq_ok_iff.mpr valid, Action.answer_ok_and_then,
    Action.current_and_then]
  simp only [inTransaction, marked]
  cases known : handle.dialect with
  | sqlite => exact absurd known server
  | postgres | sqlServer => rfl

/-- Outside a transaction a statement is executed there. -/
theorem create_database_server (valid : DatabaseName.isValid name.toList = true)
    (server : handle.dialect ≠ .sqlite) (unmarked : handle.transaction = false) :
    createDatabase name driver handle =
      (execute ("CREATE DATABASE " ++ handle.dialect.quoteIdentifier name) [] >>= fun _ =>
        pure ()) driver handle := by
  rw [createDatabase, DatabaseName.validate_eq_ok_iff.mpr valid, Action.answer_ok_and_then,
    Action.current_and_then]
  simp only [inTransaction, unmarked]
  cases known : handle.dialect with
  | sqlite => exact absurd known server
  | postgres | sqlServer => rfl

/-- The creation of a database hands on the string of a closed handle on a server. In SQLite the
string of the new file is handed on, and that shows something. -/
theorem create_database_opens_blank (sound : handle.Sound) :
    (createDatabase name driver handle).opensBlank =
      (handle.connection.isNone && Text.isBlankText handle.connectionString &&
        (handle.dialect != .sqlite && DatabaseName.isValid name.toList)) := by
  cases valid : DatabaseName.isValid name.toList with
  | false =>
    cases judged : DatabaseName.validate name with
    | error error =>
      rw [create_database_misnamed judged, Bool.and_false, Bool.and_false]
      rfl
    | ok _ =>
      rw [DatabaseName.validate_eq_ok_iff.mp judged] at valid
      cases valid
  | true =>
    by_cases file : handle.dialect = .sqlite
    · rw [create_database_file valid file, file, bne_self_eq_false, Bool.false_and, Bool.and_false]
      cases written : ConnectionString.withDatabase .sqlite handle.connectionString name with
      | error error =>
        rw [Action.answer_error_and_then]
        rfl
      | ok target =>
        have dialed : (touch target driver handle).dialed = if true then [target] else [] :=
          touch_dialed target
        rw [Action.answer_ok_and_then, opens_blank_of_dialed dialed, Bool.true_and]
        exact ConnectionString.is_blank_text_with_database written
    · rw [bne_iff_ne.mpr file, Bool.and_true, Bool.and_true]
      cases marked : handle.transaction with
      | true =>
        have held : handle.connection.isNone = false := by
          rw [← Option.not_isSome, sound.marked marked]
          rfl
        rw [create_database_marked valid file marked, held]
        rfl
      | false =>
        rw [create_database_server valid file marked]
        exact opens_blank_of_dialed ((Action.dialed_and_then fun _ _ _ => rfl).trans (run_dialed _))

/-- With a blank string no file is created beside another. -/
theorem with_database_blank (valid : DatabaseName.isValid name.toList = true) {dialect : Dialect}
    {connectionString : String} (blank : Text.isBlankText connectionString = true) :
    ConnectionString.withDatabase dialect connectionString name =
      .error (.configuration "connection string must not be empty") := by
  have nothing : Text.trim connectionString.toList = [] := (Text.trim_eq_nil_iff _).mpr blank
  simp only [ConnectionString.withDatabase, DatabaseName.validate_eq_ok_iff.mpr valid, nothing,
    List.isEmpty_nil, if_true]
  rfl

end CreateDatabase

end Handle

namespace Operation

/-- Which operations hand a blank string to the driver, on a closed handle and never on one that
holds a connection. -/
theorem perform_opens_blank (sound : handle.Sound) (operation : Operation) :
    (operation.perform driver handle).opensBlank =
      (handle.connection.isNone && Text.isBlankText handle.connectionString &&
        operation.unguarded handle.dialect) := by
  cases here : operation.namesDatabase with
  | false =>
    rw [opens_blank_of_dialed (operation.perform_dialed here), Bool.and_assoc, Bool.and_assoc,
      dials_and_blank here]
  | true =>
    cases operation with
    | createDatabase name => exact Handle.create_database_opens_blank sound
    | changeDatabase name =>
      exact (Handle.change_database_opens_blank name).trans (Bool.and_false _).symm
    | _ => cases here

/-- The operations that do not look at the string dial on a closed handle. -/
theorem perform_dials (sound : handle.Sound) (free : handle.connection = none)
    {operation : Operation} (unguarded : operation.unguarded handle.dialect = true) :
    (operation.perform driver handle).Dials driver handle := by
  cases borrows : operation.borrows with
  | true =>
    obtain ⟨work, performs⟩ := perform_eq_run borrows
    rw [performs]
    exact Handle.run_dials _ free
  | false =>
    cases operation with
    | info => exact Action.dials_and_then _ (Handle.run_dials Work.version free)
    | createDatabase name =>
      obtain ⟨server, valid⟩ := Bool.and_eq_true_iff.mp unguarded
      rw [perform, Handle.create_database_server valid (bne_iff_ne.mp server) (sound.unmarked free)]
      exact Action.dials_and_then _ (Handle.run_dials _ free)
    | _ => exact absurd (borrows.symm.trans unguarded) Bool.false_ne_true

/-- The others that need a connection are refused on a closed handle with a blank string, and that
is all. -/
theorem perform_guarded (vacant : handle.Blank) {operation : Operation}
    (guarded : operation.guarded handle.dialect = true) :
    ∃ message, operation.perform driver handle =
      ⟨.error (.configuration message), [], handle⟩ := by
  cases operation with
  | openConnection => exact ⟨_, Handle.open_connection_blank vacant.free vacant.blank⟩
  | changeDatabase name =>
    exact ⟨_, Handle.change_database_unwritten vacant.unmarked
      (Handle.with_database_blank guarded vacant.blank)⟩
  | createDatabase name =>
    obtain ⟨file, valid⟩ := Bool.and_eq_true_iff.mp guarded
    refine ⟨"connection string must not be empty", ?_⟩
    rw [perform, Handle.create_database_file valid (beq_iff_eq.mp file),
      Handle.with_database_blank valid vacant.blank]
    exact Action.answer_error_and_then _ _ _ _
  | foreach names calls =>
    obtain ⟨message, started⟩ := Batch.start_free vacant.free names
    refine ⟨message, ?_⟩
    rw [perform, iteration, Action.current_and_then, started]
    exact Action.answer_error_and_then _ _ _ _
  | _ => exact absurd guarded Bool.false_ne_true

/-- With a blank string all but the operations that do not look at it ask nothing and change
nothing. -/
theorem perform_idle (vacant : handle.Blank) {operation : Operation}
    (unguarded : operation.unguarded handle.dialect = false) :
    (operation.perform driver handle).calls = [] ∧
      (operation.perform driver handle).handle = handle := by
  cases guarded : operation.guarded handle.dialect with
  | true =>
    obtain ⟨message, refused⟩ := perform_guarded vacant guarded
    rw [refused]
    exact ⟨rfl, rfl⟩
  | false =>
    have outside : handle.state ≠ .inTransaction := by
      rw [Handle.state_eq_closed.mpr vacant.free]
      exact ConnectionState.noConfusion
    have unlent : operation.borrows = false := eq_false_of_ne_true fun borrows =>
      Bool.false_ne_true (unguarded.symm.trans (unguarded_of_borrows borrows handle.dialect))
    cases operation with
    | closeConnection =>
      obtain ⟨dialect, connectionString, connection, transaction, numbered⟩ := handle
      obtain ⟨rfl, rfl, _⟩ := vacant
      exact ⟨rfl, rfl⟩
    | beginTransaction =>
      rw [perform, Handle.begin_transaction_free vacant.unmarked vacant.free]
      exact ⟨rfl, rfl⟩
    | commit =>
      rw [perform, Handle.commit, Handle.end_transaction_outside "commit" .commit _ outside]
      exact ⟨rfl, rfl⟩
    | rollback =>
      rw [perform, Handle.rollback, Handle.end_transaction_outside "roll back" .rollback _ outside]
      exact ⟨rfl, rfl⟩
    | changeDatabase name =>
      cases written : ConnectionString.withDatabase handle.dialect handle.connectionString name with
      | error error =>
        rw [perform, Handle.change_database_unwritten vacant.unmarked written]
        exact ⟨rfl, rfl⟩
      | ok target =>
        -- the name of another database is not written into a blank string
        obtain ⟨_, visible, _⟩ := ConnectionString.of_with_database_ok written
        exact absurd ((Text.trim_eq_nil_iff _).mpr vacant.blank) visible
    | createDatabase name =>
      cases judged : DatabaseName.validate name with
      | error error =>
        rw [perform, Handle.create_database_misnamed judged]
        exact ⟨rfl, rfl⟩
      | ok _ =>
        -- a proper name is either guarded, in SQLite, or unguarded
        have valid := DatabaseName.validate_eq_ok_iff.mp judged
        cases known : handle.dialect <;>
          simp [Operation.guarded, Operation.unguarded, known, valid] at guarded unguarded
    | queryPage table _ | columns table | foreignKeys table | triggers table
    | tableDefinition table =>
      obtain ⟨message, refused⟩ := perform_blank_name unlent rfl
      rw [refused]
      exact ⟨rfl, rfl⟩
    | openConnection | foreach _ _ => cases guarded
    | execute _ _ | query _ _ | queryFirst _ _ | queryScalar _ _ | tables | serverVersion | info =>
      cases unguarded

/-- A closed handle with a blank string stays what it is, but for the count of numbers. -/
theorem perform_blank_still (vacant : handle.Blank) (operation : Operation) (driver : Driver) :
    ∃ numbered, (operation.perform driver handle).handle =
      { handle with numbered := numbered } := by
  cases governs : operation.governs with
  | false => exact (operation.perform_modest governs).still driver handle
  | true =>
    have unguarded : operation.unguarded handle.dialect = false := by
      cases operation <;> first | rfl | cases governs
    exact ⟨handle.numbered, (perform_idle vacant unguarded).2⟩

/-- What an operation writes into a handle shows something. -/
theorem is_blank_text_target? {operation : Operation} {target : String}
    (writes : operation.target? handle = some target) : Text.isBlankText target = false := by
  obtain ⟨name, _, _, written⟩ := target?_eq_some_iff.mp writes
  exact ConnectionString.is_blank_text_with_database written

/-- A string that shows something is only ever replaced by another that does, for the same
dialect. -/
theorem perform_visible (operation : Operation)
    (visible : Text.isBlankText handle.connectionString = false) (driver : Driver) :
    Text.isBlankText (operation.perform driver handle).handle.connectionString = false ∧
      (operation.perform driver handle).handle.dialect = handle.dialect := by
  obtain ⟨string, dialect⟩ := operation.perform_string driver handle
  refine ⟨?_, dialect⟩
  rw [string]
  cases writes : operation.target? handle with
  | none => exact visible
  | some target => exact is_blank_text_target? writes

end Operation

/-- What a course keeps of a new handle: the dialect, whether its string shows something, and where
it shows nothing, the string itself and that no connection is held. -/
structure Handle.StandsFor (dialect : Dialect) (connectionString : String) (handle : Handle) :
    Prop where
  sound : handle.Sound
  dialect : handle.dialect = dialect
  shows : Text.isBlankText handle.connectionString = Text.isBlankText connectionString
  still : Text.isBlankText connectionString = true →
    handle.connection = none ∧ handle.connectionString = connectionString

namespace Handle.StandsFor

variable {dialect : Dialect} {connectionString : String}

/-- A new handle stands for itself. -/
theorem closed (dialect : Dialect) (connectionString : String) :
    (Handle.closed dialect connectionString).StandsFor dialect connectionString where
  sound := Handle.closed_sound dialect connectionString
  dialect := rfl
  shows := rfl
  still _ := ⟨rfl, rfl⟩

/-- With a blank string the handle is closed. -/
theorem vacant (stands : handle.StandsFor dialect connectionString)
    (blank : Text.isBlankText connectionString = true) : handle.Blank where
  free := (stands.still blank).1
  unmarked := stands.sound.unmarked (stands.still blank).1
  blank := stands.shows.trans blank

/-- An operation keeps what the handle stands for. -/
theorem perform (stands : handle.StandsFor dialect connectionString) (operation : Operation)
    (driver : Driver) :
    (operation.perform driver handle).handle.StandsFor dialect connectionString := by
  have sound := (operation.perform_orderly driver handle stands.sound).sound
  cases blank : Text.isBlankText connectionString with
  | true =>
    obtain ⟨numbered, still⟩ := operation.perform_blank_still (stands.vacant blank) driver
    rw [still] at sound ⊢
    exact ⟨sound, stands.dialect, stands.shows, stands.still⟩
  | false =>
    obtain ⟨shown, same⟩ := operation.perform_visible (stands.shows.trans blank) driver
    refine ⟨sound, same.trans stands.dialect, shown.trans blank.symm, fun hidden => ?_⟩
    cases blank.symm.trans hidden

/-- On such a handle the string it was made with decides what an operation hands on. -/
theorem perform_opens_blank (stands : handle.StandsFor dialect connectionString)
    (operation : Operation) :
    (operation.perform driver handle).opensBlank =
      (Text.isBlankText connectionString && operation.unguarded dialect) := by
  rw [operation.perform_opens_blank stands.sound, stands.shows, stands.dialect]
  cases blank : Text.isBlankText connectionString with
  | true =>
    rw [(stands.still blank).1]
    rfl
  | false => rw [Bool.and_false]

/-- So does a whole course, operation by operation. -/
theorem course (stands : handle.StandsFor dialect connectionString)
    (operations : List Operation) (driver : Driver) :
    (SqlAccess.course operations driver handle).handle.StandsFor dialect connectionString ∧
      (SqlAccess.course operations driver handle).opensBlank =
        (Text.isBlankText connectionString &&
          operations.any (Operation.unguarded dialect)) := by
  induction operations generalizing driver handle with
  | nil => exact ⟨stands, (Bool.and_false _).symm⟩
  | cons operation rest inductionHypothesis =>
    rw [course_cons]
    obtain ⟨kept, later⟩ := inductionHypothesis (stands.perform operation driver)
      (driver.after (operation.perform driver handle).calls.length)
    refine ⟨kept, ?_⟩
    have asked : (operation.perform driver handle).calls.any Call.opensBlank = _ :=
      stands.perform_opens_blank operation
    dsimp only [Step.opensBlank] at later ⊢
    rw [List.any_append, asked, later, List.any_cons, Bool.and_or_distrib_left]

end Handle.StandsFor

/-- What becomes of the string of a new handle in a course of use. -/
structure BlankStrings (dialect : Dialect) (connectionString : String) (past : Driver)
    (earlier : List Operation) : Prop where
  /-- A blank string is handed to the driver exactly where the handle was made with one and the
  course has an operation that does not look at it. -/
  handed : (course earlier past (Handle.closed dialect connectionString)).opensBlank =
    (Text.isBlankText connectionString && earlier.any (Operation.unguarded dialect))
  /-- Then the driver decides: where it has nothing against the string, the work is done. -/
  dialed : Text.isBlankText connectionString = true →
    ∀ (driver : Driver) (operation : Operation), operation.unguarded dialect = true →
      let handle := (course earlier past (Handle.closed dialect connectionString)).handle
      handle.connectionString = connectionString ∧
        (operation.perform driver handle).Dials driver handle
  /-- Every other operation asks nothing and changes nothing. -/
  idle : Text.isBlankText connectionString = true →
    ∀ (driver : Driver) (operation : Operation), operation.unguarded dialect = false →
      let handle := (course earlier past (Handle.closed dialect connectionString)).handle
      (operation.perform driver handle).calls = [] ∧
        (operation.perform driver handle).handle = handle
  /-- Those among them that need a connection are refused for the configuration. -/
  refused : Text.isBlankText connectionString = true →
    ∀ (driver : Driver) (operation : Operation), operation.guarded dialect = true →
      let handle := (course earlier past (Handle.closed dialect connectionString)).handle
      ∃ message, (operation.perform driver handle).result = .error (.configuration message)

/-- A blank connection string reaches the driver through the operations that do not look at it, and
through no others; to open a handle, to write another string and to iterate are refused with it.

Proof: every course keeps that the string is the one it began with as long as this is blank, and
that no connection is held then. From there each operation dials at once, asks nothing, or
refuses. -/
theorem course_blank_strings (dialect : Dialect) (connectionString : String) (past : Driver)
    (earlier : List Operation) : BlankStrings dialect connectionString past earlier := by
  obtain ⟨stands, handed⟩ :=
    (Handle.StandsFor.closed dialect connectionString).course earlier past
  refine ⟨handed, ?_, ?_, ?_⟩
  · intro blank driver operation unguarded
    rw [← stands.dialect] at unguarded
    obtain ⟨free, same⟩ := stands.still blank
    exact ⟨same, operation.perform_dials stands.sound free unguarded⟩
  · intro blank driver operation unguarded
    rw [← stands.dialect] at unguarded
    exact operation.perform_idle (stands.vacant blank) unguarded
  · intro blank driver operation guarded
    rw [← stands.dialect] at guarded
    obtain ⟨message, whole⟩ := operation.perform_guarded (stands.vacant blank) guarded
    exact ⟨message, congrArg Step.result whole⟩

end Opening

/-- The list of the tables of a handle with a blank string: it cannot be opened, and yet the driver
is asked for a connection of the blank string, on which the tables are listed. -/
theorem tables_hands_on_blank :
    let driver :=
      Driver.steady { Answers.unpopulated .sqlite with openConnection := fun _ => .ok () }
    let handle := Handle.closed .sqlite "  "
    let listed := Operation.tables.perform driver handle
    (Operation.openConnection.perform driver handle).result =
        .error (.configuration "connection string must not be empty") ∧
      listed.result = .ok [] ∧
      listed.calls = [.opening 1 "  ", .sent 1 (.query (Catalog.tablesQuery .sqlite) []),
        .sent 1 .close] ∧
      listed.opensBlank = true :=
  ⟨rfl, rfl, rfl, rfl⟩

end SqlAccess
