import SqlAccess.Connection.State
import SqlAccess.ConnectionString
import SqlAccess.Driver

/-!
# Connection handles

A handle stands for one logical connection to a database. It holds at most one connection, and
beside it the marker of the transaction that is open there. Connections are numbered in the
order in which a driver is asked for them, from one; a number is used up also when the driver
refuses. An action on a handle gives its result, the calls that were made, and the handle
afterwards.
-/

namespace SqlAccess

/-- A call of a driver. -/
inductive Call where
  /-- A connection with this number is asked for. -/
  | opening (number : Nat) (connectionString : String)
  /-- The connection with this number is asked for something. -/
  | sent (number : Nat) (command : Command)
deriving DecidableEq, Repr

/-- The connection that a call is about. -/
def Call.number : Call → Nat
  | .opening number _ | .sent number _ => number

/-- A logical connection. -/
structure Handle where
  dialect : Dialect
  connectionString : String
  /-- The number of the connection that is held. -/
  connection : Option Nat
  /-- The marker of an open transaction. Its name and its time are chance and are left out. -/
  transaction : Bool
  /-- How many numbers have been given to connections. -/
  numbered : Nat
deriving DecidableEq, Repr

/-- What an action gives. -/
structure Step (α : Type) where
  result : Except Error α
  calls : List Call
  handle : Handle

/-- An action on a handle, with the answers of a driver. -/
def Action (α : Type) : Type := Driver → Handle → Step α

namespace Action

/-- An action that calls nothing and leaves the handle alone. -/
def answer {α : Type} (result : Except Error α) : Action α :=
  fun _ handle => ⟨result, [], handle⟩

/-- What an answer gives. -/
@[simp]
theorem answer_step {α : Type} (result : Except Error α) (driver : Driver) (handle : Handle) :
    answer result driver handle = ⟨result, [], handle⟩ := rfl

/-- Refuse before anything is called. -/
def refuse {α : Type} (error : Error) : Action α := answer (.error error)

/-- The next action starts from the handle that the first one leaves, and on what is left of the
driver, unless the first one failed. -/
def andThen {α β : Type} (action : Action α) (next : α → Action β) : Action β :=
  fun driver handle =>
    let first := action driver handle
    match first.result with
    | .error error => ⟨.error error, first.calls, first.handle⟩
    | .ok value =>
      let second := next value (driver.after first.calls.length) first.handle
      ⟨second.result, first.calls ++ second.calls, second.handle⟩

instance : Monad Action where
  pure value := answer (.ok value)
  bind := andThen

/-- The handle as it is. -/
def current : Action Handle := fun _ handle => ⟨.ok handle, [], handle⟩

/-- An action that follows an error is not carried out. -/
theorem and_then_of_error {α β : Type} (action : Action α) (next : α → Action β)
    (driver : Driver) (handle : Handle) (error : Error)
    (failed : (action driver handle).result = .error error) :
    (action >>= next) driver handle =
      ⟨.error error, (action driver handle).calls, (action driver handle).handle⟩ := by
  simp only [bind, andThen, failed]

/-- An action that follows an answer goes on from what the first one leaves. -/
theorem and_then_of_ok {α β : Type} (action : Action α) (next : α → Action β)
    (driver : Driver) (handle : Handle) (value : α)
    (answered : (action driver handle).result = .ok value) :
    (action >>= next) driver handle =
      let first := action driver handle
      let second := next value (driver.after first.calls.length) first.handle
      ⟨second.result, first.calls ++ second.calls, second.handle⟩ := by
  simp only [bind, andThen, answered]

/-- Changing the value at the end changes nothing else. -/
theorem and_then_pure {α β : Type} (action : Action α) (change : α → β) (driver : Driver)
    (handle : Handle) :
    (action >>= fun value => pure (change value)) driver handle =
      ⟨(action driver handle).result.map change, (action driver handle).calls,
        (action driver handle).handle⟩ := by
  cases answered : (action driver handle).result with
  | error error =>
    rw [and_then_of_error action _ driver handle error answered]
    rfl
  | ok value =>
    rw [and_then_of_ok action _ driver handle value answered]
    simp only [pure, answer_step, List.append_nil, Except.map]

/-- An action that succeeds has succeeded in both of its parts. -/
theorem and_then_ok {α β : Type} {action : Action α} {next : α → Action β} {driver : Driver}
    {handle : Handle} {final : β}
    (answered : ((action >>= next) driver handle).result = .ok final) :
    ∃ value, (action driver handle).result = .ok value ∧
      (next value (driver.after (action driver handle).calls.length)
        (action driver handle).handle).result = .ok final := by
  cases first : (action driver handle).result with
  | error error =>
    rw [and_then_of_error action next driver handle error first] at answered
    cases answered
  | ok value =>
    rw [and_then_of_ok action next driver handle value first] at answered
    exact ⟨value, rfl, answered⟩

/-- Giving a value on asks nothing in between. -/
theorem answer_and_then {α β : Type} (value : α) (next : α → Action β) :
    (pure value >>= next) = next value := by
  funext driver handle
  rw [and_then_of_ok (pure value) next driver handle value rfl]
  simp only [pure, answer_step, List.length_nil, Driver.after_zero, List.nil_append]

/-- A look at the handle asks nothing. -/
theorem current_and_then {β : Type} (next : Handle → Action β) (driver : Driver)
    (handle : Handle) : (current >>= next) driver handle = next handle driver handle := by
  rw [and_then_of_ok current next driver handle handle rfl]
  simp only [current, List.length_nil, Driver.after_zero, List.nil_append]

/-- A judgement that is passed asks nothing. -/
theorem answer_ok_and_then {α β : Type} (value : α) (next : α → Action β) (driver : Driver)
    (handle : Handle) :
    (answer (.ok value) >>= next) driver handle = next value driver handle :=
  congrFun (congrFun (answer_and_then value next) driver) handle

/-- A judgement that is not passed is the end. -/
theorem answer_error_and_then {α β : Type} (error : Error) (next : α → Action β)
    (driver : Driver) (handle : Handle) :
    (answer (.error error) >>= next) driver handle = ⟨.error error, [], handle⟩ :=
  and_then_of_error _ next driver handle error rfl

/-- Three actions follow each other, however they are grouped. -/
theorem and_then_assoc {α β γ : Type} (action : Action α) (next : α → Action β)
    (last : β → Action γ) :
    ((action >>= next) >>= last) = (action >>= fun value => next value >>= last) := by
  funext driver handle
  cases first : (action driver handle).result with
  | error error =>
    have failed := and_then_of_error action next driver handle error first
    have result : ((action >>= next) driver handle).result = .error error := by rw [failed]
    rw [and_then_of_error _ last driver handle error result, failed,
      and_then_of_error action _ driver handle error first]
  | ok value =>
    have went := and_then_of_ok action next driver handle value first
    rw [and_then_of_ok action _ driver handle value first]
    cases second : (next value (driver.after (action driver handle).calls.length)
        (action driver handle).handle).result with
    | error error =>
      have result : ((action >>= next) driver handle).result = .error error := by rw [went, second]
      rw [and_then_of_error _ last driver handle error result, went]
      dsimp only
      rw [and_then_of_error (next value) last _ _ error second]
    | ok middle =>
      have result : ((action >>= next) driver handle).result = .ok middle := by rw [went, second]
      rw [and_then_of_ok _ last driver handle middle result, went]
      dsimp only
      rw [and_then_of_ok (next value) last _ _ middle second]
      simp only [List.length_append, Driver.after_after, List.append_assoc]

/-- Giving on what an action gives is the action itself. -/
theorem and_then_answer {α : Type} (action : Action α) : (action >>= pure) = action := by
  funext driver handle
  have asItIs := and_then_pure action id driver handle
  rw [Except.map_id] at asItIs
  exact asItIs

instance : LawfulMonad Action :=
  LawfulMonad.mk' Action and_then_answer answer_and_then and_then_assoc

end Action

namespace Handle

/-- A closed handle. -/
def closed (dialect : Dialect) (connectionString : String) : Handle :=
  ⟨dialect, connectionString, none, false, 0⟩

/-- A closed handle for the dialect that a connection string is written for. -/
def ofConnectionString (connectionString : String) : Except Error Handle :=
  match ConnectionString.dialect? connectionString with
  | some dialect => .ok (closed dialect connectionString)
  | none =>
    .error (.configuration ("Cannot determine database type from '" ++
      ConnectionString.masked connectionString ++ "'"))

/-- The state that an observer sees. -/
def state (handle : Handle) : ConnectionState :=
  match handle.connection, handle.transaction with
  | none, _ => .closed
  | some _, false => .opened
  | some _, true => .inTransaction

/-- True while a transaction is open. -/
def inTransaction (handle : Handle) : Bool := handle.transaction

/-- The database that the connection string names. -/
def databaseName? (handle : Handle) : Option String :=
  ConnectionString.databaseName? handle.dialect handle.connectionString

/-- Ask the driver for a connection; the result is its number. -/
def dial (connectionString : String) : Action Nat := fun driver handle =>
  let number := handle.numbered + 1
  ⟨(driver.now.openConnection connectionString).map fun _ => number,
    [.opening number connectionString],
    { handle with numbered := number }⟩

/-- Hold a connection. Nothing happens where one is held; a blank connection string is refused. -/
def openConnection : Action Unit := fun driver handle =>
  match handle.connection with
  | some _ => ⟨.ok (), [], handle⟩
  | none =>
    if Text.isBlankText handle.connectionString then
      ⟨.error (.configuration "connection string must not be empty"), [], handle⟩
    else
      let step := dial handle.connectionString driver handle
      match step.result with
      | .ok number =>
        ⟨.ok (), step.calls, { step.handle with connection := some number }⟩
      | .error error => ⟨.error error, step.calls, step.handle⟩

/-- Let go of the connection; an open transaction is rolled back first. What the driver answers
does not matter. -/
def closeConnection : Action Unit := fun _ handle =>
  match handle.connection with
  | none => ⟨.ok (), [], { handle with transaction := false }⟩
  | some number =>
    let commands : List Command := if handle.transaction then [.rollback, .close] else [.close]
    ⟨.ok (), commands.map (.sent number),
      { handle with connection := none, transaction := false }⟩

/-- Open a transaction on the held connection. -/
def beginTransaction : Action Unit := fun driver handle =>
  if handle.transaction then
    ⟨.error (.transactionState "a transaction is already open"), [], handle⟩
  else
    match handle.connection with
    | none =>
      ⟨.error (.transactionState "cannot begin a transaction on a closed connection"), [],
        handle⟩
    | some number =>
      match driver.now.begin with
      | .ok () => ⟨.ok (), [.sent number .begin], { handle with transaction := true }⟩
      | .error error => ⟨.error error, [.sent number .begin], handle⟩

/-- End the open transaction. It has ended also where the driver refuses. -/
def endTransaction (deed : String) (command : Command) (reply : Answers → Except Error Unit) :
    Action Unit := fun driver handle =>
  match handle.connection, handle.transaction with
  | some number, true =>
    ⟨reply driver.now, [.sent number command], { handle with transaction := false }⟩
  | _, _ =>
    ⟨.error (.transactionState ("cannot " ++ deed ++ " without an open transaction")), [],
      handle⟩

/-- Make the changes of the transaction last. -/
def commit : Action Unit := endTransaction "commit" .commit Answers.commit

/-- Take the changes of the transaction back. -/
def rollback : Action Unit := endTransaction "roll back" .rollback Answers.rollback

/-- Do work on the held connection, or else on one that is opened for it and closed afterwards,
whether the work has failed or not. -/
def run {α : Type} (work : Work α) : Action α := fun driver handle =>
  match handle.connection with
  | some number =>
    let outcome := work driver
    ⟨outcome.result, outcome.commands.map (.sent number), handle⟩
  | none =>
    let step := dial handle.connectionString driver handle
    match step.result with
    | .error error => ⟨.error error, step.calls, step.handle⟩
    | .ok number =>
      let outcome := work (driver.after step.calls.length)
      let commands := outcome.commands ++ [.close]
      ⟨outcome.result, step.calls ++ commands.map (.sent number), step.handle⟩

/-- How diagnostics show a handle outside a transaction; passwords are hidden. -/
def diagnostic (handle : Handle) : String :=
  let dialect := match handle.dialect with
    | .sqlite => "SQLite"
    | .postgres => "PostgreSQL"
    | .sqlServer => "SqlServer"
  "ConnectionHandle \x7b dialect: " ++ dialect ++ ", connection_string: " ++
    Text.diagnosticText (ConnectionString.masked handle.connectionString) ++ ", state: " ++
    handle.state.diagnostic ++ ", transaction: None \x7d"

end Handle

/-- The name of a transaction, made from sixteen random bytes. -/
def transactionId (random : List UInt8) : String := "tx_" ++ String.ofList (Bytes.hexLower random)

end SqlAccess
