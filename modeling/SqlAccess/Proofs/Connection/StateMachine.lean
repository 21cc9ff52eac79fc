import SqlAccess.Proofs.Connection.Orderly

/-!
# The state machine of a handle

An observer of a handle sees one of three states. What an operation does to the state is one
move of a machine that knows nothing of connections, only whether the driver granted what the
move needs. Main statement: every operation on every handle that can be reached follows the
machine, whatever the driver answers. An operation that the state does not admit is refused
before anything is called, one that the state makes needless calls nothing, and one that is not
about the connection leaves the state, the connection and the connection string as they are.

Going to another database is opened up first, case by case, because it is the one operation that
is put together from others.
-/

namespace SqlAccess

/-- The moves of the machine, each with what the driver granted. -/
inductive Move where
  | opening (granted : Bool)
  | closing
  | beginning (granted : Bool)
  | ending
  /-- The connection is replaced by one to another database. -/
  | reopening (granted : Bool)
  | staying
deriving DecidableEq, Repr

/-- The state after a move. A move that the state does not admit changes nothing. -/
def ConnectionState.after : ConnectionState → Move → ConnectionState
  | .closed, .opening true => .opened
  | _, .closing => .closed
  | .opened, .beginning true => .inTransaction
  | .inTransaction, .ending => .opened
  | .opened, .reopening false => .closed
  | state, _ => state

namespace Operation

/-- The move that an operation makes. A connection string is refused when it is blank, and
otherwise the driver grants a connection or does not; a connection that is replaced is asked to
close by the call before that. -/
def move (operation : Operation) (driver : Driver) (handle : Handle) : Move :=
  let connects (driver : Driver) (connectionString : String) : Bool :=
    !Text.isBlankText connectionString && (driver.now.openConnection connectionString).isOk
  match operation with
  | .openConnection => .opening (connects driver handle.connectionString)
  | .closeConnection => .closing
  | .beginTransaction => .beginning driver.now.begin.isOk
  | .commit | .rollback => .ending
  | .changeDatabase name =>
    match ConnectionString.withDatabase handle.dialect handle.connectionString name with
    | .error _ => .staying
    | .ok target => .reopening (connects (driver.after 1) target)
  | _ => .staying

/-- Why the state does not admit an operation. -/
def misplaced? : Operation → ConnectionState → Option String
  | .beginTransaction, .closed => some "cannot begin a transaction on a closed connection"
  | .beginTransaction, .inTransaction => some "a transaction is already open"
  | .commit, .closed | .commit, .opened => some "cannot commit without an open transaction"
  | .rollback, .closed | .rollback, .opened => some "cannot roll back without an open transaction"
  | .changeDatabase _, .inTransaction =>
    some "cannot change database while a transaction is open"
  | _, _ => none

/-- The string that an operation writes into a handle. Only going to another database writes one,
outside a transaction, and only where the name can be written into the string there is. -/
def target? (handle : Handle) : Operation → Option String
  | .changeDatabase name =>
    if handle.transaction then none
    else (ConnectionString.withDatabase handle.dialect handle.connectionString name).toOption
  | _ => none

/-- A string is written exactly where no transaction is open and the name is accepted. -/
theorem target?_eq_some_iff {handle : Handle} {operation : Operation} {target : String} :
    operation.target? handle = some target ↔
      ∃ name, operation = .changeDatabase name ∧ handle.transaction = false ∧
        ConnectionString.withDatabase handle.dialect handle.connectionString name = .ok target := by
  cases operation with
  | changeDatabase name =>
    cases marked : handle.transaction <;>
      cases written : ConnectionString.withDatabase handle.dialect handle.connectionString name <;>
        simp [target?, marked, written, Except.toOption]
  | _ => simp [target?]

/-- True when the state already is what the operation is for. -/
def needless : Operation → ConnectionState → Bool
  | .openConnection, .opened | .openConnection, .inTransaction => true
  | .closeConnection, .closed => true
  | _, _ => false

end Operation

namespace Handle

open SqlAccess.Action

variable {driver : Driver} {handle : Handle} {number : Nat}

/-- A handle is closed exactly when it holds no connection. -/
theorem state_eq_closed : handle.state = .closed ↔ handle.connection = none := by
  unfold state
  cases held : handle.connection <;> cases marked : handle.transaction <;> simp

/-- A handle is open exactly when it holds a connection without a marker. -/
theorem state_eq_opened :
    handle.state = .opened ↔
      (∃ number, handle.connection = some number) ∧ handle.transaction = false := by
  unfold state
  cases held : handle.connection <;> cases marked : handle.transaction <;> simp

/-- A handle is in a transaction exactly when it holds a connection with a marker. -/
theorem state_eq_in_transaction :
    handle.state = .inTransaction ↔
      (∃ number, handle.connection = some number) ∧ handle.transaction = true := by
  unfold state
  cases held : handle.connection <;> cases marked : handle.transaction <;> simp

/-- Outside a transaction there is no marker. -/
theorem Sound.unmarked_of_state (sound : handle.Sound) (outside : handle.state ≠ .inTransaction) :
    handle.transaction = false := by
  cases marked : handle.transaction with
  | false => rfl
  | true =>
    have held := Option.isSome_iff_exists.mp (sound.marked marked)
    exact absurd (state_eq_in_transaction.mpr ⟨held, marked⟩) outside

section ChangeDatabase

variable {name target : String}

/-- Inside a transaction nothing is changed. -/
theorem change_database_marked (marked : handle.transaction = true) :
    changeDatabase name driver handle =
      ⟨.error (.transactionState "cannot change database while a transaction is open"), [],
        handle⟩ := by
  unfold changeDatabase
  rw [current_and_then]
  simp only [inTransaction, marked, if_true]
  rfl

/-- Where no connection string can be written, nothing is changed. -/
theorem change_database_unwritten (unmarked : handle.transaction = false) {error : Error}
    (unwritten : ConnectionString.withDatabase handle.dialect handle.connectionString name =
      .error error) :
    changeDatabase name driver handle = ⟨.error error, [], handle⟩ := by
  unfold changeDatabase
  rw [current_and_then]
  simp only [inTransaction, unmarked, Bool.false_eq_true, if_false, unwritten]
  exact answer_error_and_then error _ driver handle

/-- Without a connection only the connection string is changed. -/
theorem change_database_free (unmarked : handle.transaction = false)
    (written : ConnectionString.withDatabase handle.dialect handle.connectionString name =
      .ok target) (free : handle.connection = none) :
    changeDatabase name driver handle =
      ⟨.ok (), [], { handle with connectionString := target }⟩ := by
  obtain ⟨dialect, connectionString, connection, transaction, numbered⟩ := handle
  subst free unmarked
  unfold changeDatabase
  rw [current_and_then]
  simp only [inTransaction, Bool.false_eq_true, written]
  rfl

/-- A held connection is closed, and then the other one is opened as any other is. -/
theorem change_database_held (unmarked : handle.transaction = false)
    (written : ConnectionString.withDatabase handle.dialect handle.connectionString name =
      .ok target) (held : handle.connection = some number) :
    changeDatabase name driver handle =
      let reopened := openConnection (driver.after 1)
        { handle with connectionString := target, connection := none }
      ⟨reopened.result, .sent number .close :: reopened.calls, reopened.handle⟩ := by
  obtain ⟨dialect, connectionString, connection, transaction, numbered⟩ := handle
  subst held unmarked
  unfold changeDatabase
  rw [current_and_then]
  simp only [inTransaction, Bool.false_eq_true, written, Option.isSome_some, if_true]
  rfl

/-- To go to another database is to be refused with nothing done, or to write another string and,
where a connection is held, to close it and to open the handle again. -/
theorem change_database_cases (driver : Driver) (handle : Handle) (name : String) :
    (∃ error, changeDatabase name driver handle = ⟨.error error, [], handle⟩) ∨
      ∃ target, handle.transaction = false ∧
        ConnectionString.withDatabase handle.dialect handle.connectionString name = .ok target ∧
        (handle.connection = none ∧
            changeDatabase name driver handle =
              ⟨.ok (), [], { handle with connectionString := target }⟩ ∨
          ∃ number, handle.connection = some number ∧
            changeDatabase name driver handle =
              let reopened := openConnection (driver.after 1)
                { handle with connectionString := target, connection := none }
              ⟨reopened.result, .sent number .close :: reopened.calls, reopened.handle⟩) := by
  by_cases marked : handle.transaction = true
  · exact .inl ⟨_, change_database_marked marked⟩
  · have unmarked := eq_false_of_ne_true marked
    cases written : ConnectionString.withDatabase handle.dialect handle.connectionString name with
    | error error => exact .inl ⟨_, change_database_unwritten unmarked written⟩
    | ok target =>
      refine .inr ⟨target, unmarked, rfl, ?_⟩
      obtain free | ⟨number, held⟩ := Option.eq_none_or_eq_some handle.connection
      · exact .inl ⟨free, change_database_free unmarked written free⟩
      · exact .inr ⟨number, held, change_database_held unmarked written held⟩

end ChangeDatabase

/-- Where a connection is held no other is asked for. -/
theorem open_connection_held (held : handle.connection = some number) :
    openConnection driver handle = ⟨.ok (), [], handle⟩ := by
  simp only [openConnection, held]

/-- Without a connection no transaction can begin. -/
theorem begin_transaction_free (unmarked : handle.transaction = false)
    (free : handle.connection = none) :
    beginTransaction driver handle =
      ⟨.error (.transactionState "cannot begin a transaction on a closed connection"), [],
        handle⟩ := by
  simp only [beginTransaction, unmarked, free, Bool.false_eq_true, if_false]

/-- Inside a transaction no other can begin. -/
theorem begin_transaction_marked (marked : handle.transaction = true) :
    beginTransaction driver handle =
      ⟨.error (.transactionState "a transaction is already open"), [], handle⟩ := by
  simp only [beginTransaction, marked, if_true]

/-- Opening moves as the machine does. -/
theorem open_connection_state (driver : Driver) (sound : handle.Sound) :
    (openConnection driver handle).handle.state =
      handle.state.after (Operation.openConnection.move driver handle) := by
  cases held : handle.connection with
  | some number =>
    rw [open_connection_held held]
    unfold state
    rw [held]
    cases handle.transaction <;> rfl
  | none =>
    have unmarked : handle.transaction = false := sound.unmarked held
    have isClosed : handle.state = .closed := state_eq_closed.mpr held
    by_cases blank : Text.isBlankText handle.connectionString = true
    · simp only [openConnection, held, blank, if_true, isClosed, Operation.move, Bool.not_true,
        Bool.false_and, ConnectionState.after]
    · cases reply : driver.now.openConnection handle.connectionString with
      | error error =>
        simp [openConnection, held, blank, dial, reply, Except.map, isClosed, Operation.move,
          Except.isOk, Except.toBool, ConnectionState.after, state_eq_closed]
      | ok value =>
        simp [openConnection, held, blank, dial, reply, Except.map, isClosed, Operation.move,
          Except.isOk, Except.toBool, ConnectionState.after, state_eq_opened, unmarked]

/-- Closing always leads to the closed state. -/
theorem close_connection_state (driver : Driver) (handle : Handle) :
    (closeConnection driver handle).handle.state = .closed := by
  rw [state_eq_closed]
  unfold closeConnection
  split
  · assumption
  · rfl

/-- Beginning a transaction moves as the machine does. -/
theorem begin_transaction_state :
    (beginTransaction driver handle).handle.state =
      handle.state.after (.beginning driver.now.begin.isOk) := by
  unfold beginTransaction state
  cases held : handle.connection <;> cases marked : handle.transaction <;>
    cases reply : driver.now.begin <;>
      simp [held, marked, ConnectionState.after, Except.isOk, Except.toBool]

/-- Ending a transaction moves as the machine does, whatever the driver answers. -/
theorem end_transaction_state (deed : String) (command : Command)
    (reply : Answers → Except Error Unit) :
    (endTransaction deed command reply driver handle).handle.state =
      handle.state.after .ending := by
  unfold endTransaction state
  cases held : handle.connection <;> cases marked : handle.transaction <;>
    simp [held, marked, ConnectionState.after]

/-- Outside a transaction none can be ended. -/
theorem end_transaction_outside (deed : String) (command : Command)
    (reply : Answers → Except Error Unit) (outside : handle.state ≠ .inTransaction) :
    endTransaction deed command reply driver handle =
      ⟨.error (.transactionState ("cannot " ++ deed ++ " without an open transaction")), [],
        handle⟩ := by
  unfold endTransaction
  split
  · rename_i number held marked
    exact absurd (state_eq_in_transaction.mpr ⟨⟨number, held⟩, marked⟩) outside
  · rfl

section ConnectionString

/-- Opening changes neither the string nor the dialect. -/
theorem open_connection_string (driver : Driver) (handle : Handle) :
    (openConnection driver handle).handle.connectionString = handle.connectionString ∧
      (openConnection driver handle).handle.dialect = handle.dialect := by
  unfold openConnection
  split
  · exact ⟨rfl, rfl⟩
  · split
    · exact ⟨rfl, rfl⟩
    · dsimp only [dial]
      split <;> exact ⟨rfl, rfl⟩

/-- Closing changes neither. -/
theorem close_connection_string (driver : Driver) (handle : Handle) :
    (closeConnection driver handle).handle.connectionString = handle.connectionString ∧
      (closeConnection driver handle).handle.dialect = handle.dialect := by
  unfold closeConnection
  split <;> exact ⟨rfl, rfl⟩

/-- Nor does the beginning of a transaction. -/
theorem begin_transaction_string (driver : Driver) (handle : Handle) :
    (beginTransaction driver handle).handle.connectionString = handle.connectionString ∧
      (beginTransaction driver handle).handle.dialect = handle.dialect := by
  unfold beginTransaction
  repeat' split
  all_goals exact ⟨rfl, rfl⟩

/-- Nor does the end of one. -/
theorem end_transaction_string (deed : String) (command : Command)
    (reply : Answers → Except Error Unit) (driver : Driver) (handle : Handle) :
    (endTransaction deed command reply driver handle).handle.connectionString =
        handle.connectionString ∧
      (endTransaction deed command reply driver handle).handle.dialect = handle.dialect := by
  unfold endTransaction
  split <;> exact ⟨rfl, rfl⟩

/-- Going to another database leaves the string that is written, if one is. -/
theorem change_database_string (name : String) (driver : Driver) (handle : Handle) :
    (changeDatabase name driver handle).handle.connectionString =
        ((Operation.changeDatabase name).target? handle).getD handle.connectionString ∧
      (changeDatabase name driver handle).handle.dialect = handle.dialect := by
  cases marked : handle.transaction with
  | true =>
    rw [change_database_marked marked, Operation.target?, if_pos marked]
    exact ⟨rfl, rfl⟩
  | false =>
    rw [Operation.target?, if_neg (Bool.eq_false_iff.mp marked)]
    cases written : ConnectionString.withDatabase handle.dialect handle.connectionString name with
    | error error =>
      rw [change_database_unwritten marked written]
      exact ⟨rfl, rfl⟩
    | ok target =>
      cases held : handle.connection with
      | none =>
        rw [change_database_free marked written held]
        exact ⟨rfl, rfl⟩
      | some number =>
        rw [change_database_held marked written held]
        exact open_connection_string _ _

end ConnectionString

/-- Going to another database moves as the machine does. -/
theorem change_database_state (sound : handle.Sound) (name : String) :
    (changeDatabase name driver handle).handle.state =
      handle.state.after ((Operation.changeDatabase name).move driver handle) := by
  cases marked : handle.transaction with
  | true =>
    rw [change_database_marked marked]
    have inside : handle.state = .inTransaction := by
      rw [state_eq_in_transaction]
      exact ⟨Option.isSome_iff_exists.mp (sound.marked marked), marked⟩
    simp only [inside, Operation.move]
    split <;> rfl
  | false =>
    cases written : ConnectionString.withDatabase handle.dialect handle.connectionString name with
    | error error =>
      rw [change_database_unwritten marked written]
      simp only [Operation.move, written]
      cases handle.state <;> rfl
    | ok target =>
      cases held : handle.connection with
      | none =>
        rw [change_database_free marked written held]
        have isClosed : handle.state = .closed := state_eq_closed.mpr held
        simp only [isClosed, Operation.move, written, ConnectionState.after]
        exact state_eq_closed.mpr held
      | some number =>
        rw [change_database_held marked written held]
        have isOpen : handle.state = .opened := state_eq_opened.mpr ⟨⟨number, held⟩, marked⟩
        -- The handle between the close and the opening is sound, so opening follows the machine.
        have between : Sound { handle with connectionString := target, connection := none } :=
          ⟨fun impossible => absurd (marked.symm.trans impossible) Bool.false_ne_true,
            fun _ impossible => nomatch impossible⟩
        have reopened := open_connection_state (driver.after 1) between
        simp only [isOpen, Operation.move, written]
        rw [reopened]
        simp only [Operation.move, state]
        generalize (!Text.isBlankText target && _) = granted
        cases granted <;> rfl

end Handle

namespace Operation

variable {driver : Driver} {handle : Handle}

/-- Every operation moves as the machine does. -/
theorem perform_state (sound : handle.Sound) (operation : Operation) :
    (operation.perform driver handle).handle.state =
      handle.state.after (operation.move driver handle) := by
  cases governs : operation.governs with
  | false =>
    obtain ⟨numbered, still⟩ := (operation.perform_modest governs).still driver handle
    have stays : operation.move driver handle = .staying := by
      cases operation <;> first | rfl | exact absurd governs.symm Bool.false_ne_true
    rw [still, stays]
    unfold Handle.state
    cases handle.connection <;> cases handle.transaction <;> rfl
  | true =>
    cases operation with
    | openConnection => exact Handle.open_connection_state driver sound
    | closeConnection =>
      have closes : handle.state.after .closing = .closed := by cases handle.state <;> rfl
      exact (Handle.close_connection_state driver handle).trans closes.symm
    | beginTransaction => exact Handle.begin_transaction_state
    | commit => exact Handle.end_transaction_state "commit" .commit Answers.commit
    | rollback => exact Handle.end_transaction_state "roll back" .rollback Answers.rollback
    | changeDatabase name => exact Handle.change_database_state sound name
    | _ => exact absurd governs Bool.false_ne_true

/-- The string after an operation is the one that it writes, or else the one before; the dialect is
never another. -/
theorem perform_string (operation : Operation) (driver : Driver) (handle : Handle) :
    (operation.perform driver handle).handle.connectionString =
        (operation.target? handle).getD handle.connectionString ∧
      (operation.perform driver handle).handle.dialect = handle.dialect := by
  cases governs : operation.governs with
  | false =>
    obtain ⟨numbered, still⟩ := (operation.perform_modest governs).still driver handle
    have unwritten : operation.target? handle = none := by
      cases operation <;> first | rfl | cases governs
    rw [still, unwritten]
    exact ⟨rfl, rfl⟩
  | true =>
    cases operation with
    | openConnection => exact Handle.open_connection_string driver handle
    | closeConnection => exact Handle.close_connection_string driver handle
    | beginTransaction => exact Handle.begin_transaction_string driver handle
    | commit => exact Handle.end_transaction_string _ _ _ driver handle
    | rollback => exact Handle.end_transaction_string _ _ _ driver handle
    | changeDatabase name => exact Handle.change_database_string name driver handle
    | _ => exact absurd governs Bool.false_ne_true

/-- An operation that the state does not admit is refused, and that is all. -/
theorem perform_misplaced (sound : handle.Sound) {operation : Operation} {reason : String}
    (misplaced : operation.misplaced? handle.state = some reason) :
    operation.perform driver handle = ⟨.error (.transactionState reason), [], handle⟩ := by
  cases operation with
  | beginTransaction =>
    cases stood : handle.state with
    | closed =>
      have free : handle.connection = none := Handle.state_eq_closed.mp stood
      rw [stood] at misplaced
      cases misplaced
      exact Handle.begin_transaction_free (sound.unmarked free) free
    | opened =>
      rw [stood] at misplaced
      cases misplaced
    | inTransaction =>
      have marked : handle.transaction = true := (Handle.state_eq_in_transaction.mp stood).2
      rw [stood] at misplaced
      cases misplaced
      exact Handle.begin_transaction_marked marked
  | commit =>
    have outside : handle.state ≠ .inTransaction := by
      intro inside
      rw [inside] at misplaced
      cases misplaced
    have worded : reason = "cannot commit without an open transaction" := by
      cases stood : handle.state <;> rw [stood] at misplaced <;> cases misplaced <;> rfl
    rw [worded]
    exact Handle.end_transaction_outside "commit" .commit Answers.commit outside
  | rollback =>
    have outside : handle.state ≠ .inTransaction := by
      intro inside
      rw [inside] at misplaced
      cases misplaced
    have worded : reason = "cannot roll back without an open transaction" := by
      cases stood : handle.state <;> rw [stood] at misplaced <;> cases misplaced <;> rfl
    rw [worded]
    exact Handle.end_transaction_outside "roll back" .rollback Answers.rollback outside
  | changeDatabase name =>
    have inside : handle.state = .inTransaction := by
      cases stood : handle.state <;> rw [stood] at misplaced <;> cases misplaced
    have marked : handle.transaction = true := (Handle.state_eq_in_transaction.mp inside).2
    rw [inside] at misplaced
    cases misplaced
    exact Handle.change_database_marked marked
  | _ => exact nomatch misplaced

/-- An operation that the state makes needless succeeds, and that is all. -/
theorem perform_needless (sound : handle.Sound) {operation : Operation}
    (needless : operation.needless handle.state = true) :
    ∃ answer, operation.perform driver handle = ⟨.ok answer, [], handle⟩ := by
  cases operation with
  | openConnection =>
    cases held : handle.connection with
    | none =>
      rw [Handle.state_eq_closed.mpr held] at needless
      exact Bool.noConfusion needless
    | some number => exact ⟨(), Handle.open_connection_held held⟩
  | closeConnection =>
    have isClosed : handle.state = .closed := by
      cases stood : handle.state <;> rw [stood] at needless <;> cases needless
    have free : handle.connection = none := Handle.state_eq_closed.mp isClosed
    have unmarked : handle.transaction = false := sound.unmarked free
    obtain ⟨dialect, connectionString, connection, transaction, numbered⟩ := handle
    subst free unmarked
    exact ⟨(), rfl⟩
  | _ => exact Bool.noConfusion needless

/-- All that the machine says about an operation on a handle. -/
structure Conforms (operation : Operation) (driver : Driver) (handle : Handle) : Prop where
  /-- A marker is there only beside a connection, before the operation and after it. -/
  markedBefore : handle.transaction = true → handle.connection.isSome = true
  markedAfter : (operation.perform driver handle).handle.transaction = true →
    (operation.perform driver handle).handle.connection.isSome = true
  /-- The state is moved as the machine says. -/
  moved : (operation.perform driver handle).handle.state =
    handle.state.after (operation.move driver handle)
  /-- What is not about the connection leaves all that the handle holds. -/
  kept : operation.governs = false →
    (operation.perform driver handle).handle.state = handle.state ∧
      (operation.perform driver handle).handle.connection = handle.connection ∧
      (operation.perform driver handle).handle.connectionString = handle.connectionString
  /-- What the state does not admit is refused with its reason, and calls and changes nothing. -/
  refused : ∀ reason, operation.misplaced? handle.state = some reason →
    operation.perform driver handle = ⟨.error (.transactionState reason), [], handle⟩
  /-- What the state makes needless succeeds, and calls and changes nothing. -/
  passedOver : operation.needless handle.state = true →
    ∃ answer, operation.perform driver handle = ⟨.ok answer, [], handle⟩

/-- Operations on sound handles follow the machine. -/
theorem conforms_of_sound (sound : handle.Sound) (operation : Operation) :
    operation.Conforms driver handle where
  markedBefore := sound.marked
  markedAfter := (operation.perform_orderly driver handle sound).sound.marked
  moved := perform_state sound operation
  kept other := by
    obtain ⟨numbered, still⟩ := (operation.perform_modest other).still driver handle
    rw [still]
    exact ⟨rfl, rfl, rfl⟩
  refused _ misplaced := perform_misplaced sound misplaced
  passedOver needless := perform_needless sound needless

end Operation

/-- Every operation on every handle that can be reached follows the three-state machine: the
handle is what any operations, on any driver, have made of a new one, and the driver that the
operation meets is any driver too.

Proof: a handle that is reached is sound, which every operation preserves. What a sound handle is by
its fields, closed, open or in a transaction, is what the machine has for its state, and each
operation is compared with the machine in its own case. -/
theorem course_conforms (dialect : Dialect) (connectionString : String) (past : Driver)
    (earlier : List Operation) (driver : Driver) (operation : Operation) :
    operation.Conforms driver
      (course earlier past (Handle.closed dialect connectionString)).handle := by
  have reached := course_orderly earlier past _ (Handle.closed_sound dialect connectionString)
  exact Operation.conforms_of_sound reached.sound operation

end SqlAccess
