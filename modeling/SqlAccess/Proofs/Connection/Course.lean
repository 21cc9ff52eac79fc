import SqlAccess.Batch

/-!
# Courses of use

A handle is used by one operation after another, and an iteration over tables by one call after
another. Whoever uses them goes on after a failure, so a course of use is any list of operations
with any arguments, on any driver. What it leaves behind is the handle, and the calls with the
word whether the driver granted them.
-/

namespace SqlAccess

/-- Whether the driver grants a call. -/
def Answers.grants (answers : Answers) : Call → Bool
  | .opening _ connectionString => (answers.openConnection connectionString).isOk
  | .sent _ (.query sql params) => (answers.query sql params).isOk
  | .sent _ (.execute sql params) => (answers.execute sql params).isOk
  | .sent _ .begin => answers.begin.isOk
  | .sent _ .commit => answers.commit.isOk
  | .sent _ .rollback => answers.rollback.isOk
  | .sent _ .version => answers.version.isOk
  | .sent _ .close => answers.close.isOk

/-- A call of a log. -/
structure Event where
  call : Call
  /-- The driver granted the call. -/
  granted : Bool
deriving DecidableEq, Repr

/-- The log of calls, each with the answer that the driver has when it is made. -/
def Driver.events (driver : Driver) : List Call → List Event
  | [] => []
  | call :: rest => ⟨call, driver.now.grants call⟩ :: (driver.after 1).events rest

/-- Later calls meet what is left of the driver. -/
theorem Driver.events_append (driver : Driver) (first second : List Call) :
    driver.events (first ++ second) =
      driver.events first ++ (driver.after first.length).events second := by
  induction first generalizing driver with
  | nil => simp [events]
  | cons call rest inductionHypothesis =>
    simp only [List.cons_append, events, inductionHypothesis, after_after, List.length_cons]
    rw [Nat.add_comm rest.length 1]

/-- The log has the calls in their order. -/
@[simp]
theorem Driver.map_call_events (driver : Driver) (calls : List Call) :
    (driver.events calls).map (·.call) = calls := by
  induction calls generalizing driver with
  | nil => rfl
  | cons call rest inductionHypothesis => simp [events, inductionHypothesis]

namespace Action

/-- The action with its failure as a value: what follows goes on either way. -/
def attempt {α : Type} (action : Action α) : Action (Except Error α) := fun driver handle =>
  let step := action driver handle
  ⟨.ok step.result, step.calls, step.handle⟩

/-- A value that is changed at the end of an action may be changed after the attempt. -/
theorem attempt_map {α β : Type} (action : Action α) (change : α → β) :
    (action >>= fun value => pure (change value)).attempt =
      action.attempt >>= fun outcome => pure (outcome.map change) := by
  funext driver handle
  rw [and_then_pure]
  simp only [attempt, and_then_pure]
  rfl

end Action

/-- A call to an iteration over tables. -/
inductive BatchCall where
  | begin
  | finish
  | push (operation : BatchOperation)
  | materialize

namespace BatchCall

/-- What a call that asks nothing of the driver leaves behind: the batch changes unless the call
is refused. -/
def passive (batch : Batch) (outcome : Except Error Batch) (handle : Handle) :
    Batch.Materialized :=
  match outcome with
  | .ok after => ⟨⟨.ok none, [], handle⟩, after⟩
  | .error error => ⟨⟨.error error, [], handle⟩, batch⟩

/-- Make a call. Only materializing gives something and asks the driver. -/
def perform (call : BatchCall) (batch : Batch) (driver : Driver) (handle : Handle) :
    Batch.Materialized :=
  match call with
  | .begin => passive batch batch.begin handle
  | .finish => passive batch batch.finish handle
  | .push operation => passive batch (batch.push operation) handle
  | .materialize => batch.materialize driver handle

end BatchCall

/-- A call whose failure does not end the iteration: the next call meets the batch it leaves. -/
def BatchCall.made (call : BatchCall) (batch : Batch) : Action Batch := fun driver handle =>
  let made := call.perform batch driver handle
  ⟨.ok made.batch, made.step.calls, made.step.handle⟩

/-- The batch after its sealed operations have been run. -/
def Batch.settled (batch : Batch) (operations : List BatchOperation) :
    Except Error MetadataMap → Batch
  | .error _ => batch
  | .ok found =>
    { batch with
      sealed := none
      lastEmpty := operations.isEmpty
      results := merge batch.results found }

namespace BatchCall

/-- A call that asks nothing of the driver gives the batch after it, or the one before it where
the call is refused. -/
theorem made_passive (batch : Batch) (outcome : Except Error Batch) :
    (fun (_ : Driver) (handle : Handle) =>
      let made := passive batch outcome handle
      (⟨.ok made.batch, made.step.calls, made.step.handle⟩ : Step Batch)) =
      (pure (outcome.toOption.getD batch) : Action Batch) := by
  funext driver handle
  cases outcome <;> rfl

/-- Beginning asks nothing of the driver. -/
theorem made_begin (batch : Batch) :
    begin.made batch = pure (batch.begin.toOption.getD batch) := made_passive batch batch.begin

/-- Ending asks nothing of the driver. -/
theorem made_finish (batch : Batch) :
    finish.made batch = pure (batch.finish.toOption.getD batch) := made_passive batch batch.finish

/-- Queueing asks nothing of the driver. -/
theorem made_push (operation : BatchOperation) (batch : Batch) :
    (push operation).made batch = pure ((batch.push operation).toOption.getD batch) :=
  made_passive batch (batch.push operation)

/-- Materializing what is sealed is running it, with the batch settled by the outcome. -/
theorem made_sealed (batch : Batch) (operations : List BatchOperation)
    (closed : batch.phase = .closed) (pending : batch.sealed = some operations) :
    materialize.made batch =
      (Batch.run batch.tables operations).attempt >>= fun outcome =>
        pure (batch.settled operations outcome) := by
  funext driver handle
  obtain ⟨tables, phase, queued, sealed, lastEmpty, results⟩ := batch
  subst closed pending
  have attempted : ((Batch.run tables operations).attempt driver handle).result =
      .ok (Batch.run tables operations driver handle).result := rfl
  rw [Action.and_then_of_ok _ _ driver handle _ attempted]
  simp only [made, perform, Batch.materialize, ne_eq, not_true_eq_false, if_false, Action.attempt,
    pure]
  cases (Batch.run tables operations driver handle).result <;> simp [Batch.settled]

/-- Where nothing is sealed, or the batch is not closed, materializing asks nothing. -/
theorem made_unsealed (batch : Batch) (unsealed : batch.phase = .closed → batch.sealed = none) :
    materialize.made batch = pure batch := by
  funext driver handle
  by_cases closed : batch.phase = .closed
  · simp only [made, perform, Batch.materialize, closed, unsealed closed, ne_eq,
      not_true_eq_false, if_false]
    rfl
  · simp only [made, perform, Batch.materialize, closed, ne_eq, not_false_eq_true, if_true]
    rfl

end BatchCall

/-- Make calls one after another. The result is the batch after the last one. -/
def Batch.iterate : List BatchCall → Batch → Action Batch
  | [], batch => pure batch
  | call :: rest, batch => do iterate rest (← call.made batch)

/-- An operation of a handle with its arguments. -/
inductive Operation where
  | openConnection
  | closeConnection
  | beginTransaction
  | commit
  | rollback
  | execute (sql : String) (params : List Param)
  | query (sql : String) (params : List Param)
  | queryFirst (sql : String) (params : List Param)
  | queryScalar (sql : String) (params : List Param)
  | queryPage (table : String) (request : Page.Request)
  | tables
  | columns (table : String)
  | foreignKeys (table : String)
  | triggers (table : String)
  | tableDefinition (table : String)
  | changeDatabase (name : String)
  | createDatabase (name : String)
  | serverVersion
  | info
  /-- A whole iteration over tables. -/
  | foreach (tables : List String) (calls : List BatchCall)

namespace Operation

/-- What an operation gives where it succeeds. -/
def Answer : Operation → Type
  | .openConnection | .closeConnection | .beginTransaction | .commit | .rollback => Unit
  | .changeDatabase _ | .createDatabase _ => Unit
  | .execute _ _ => Nat
  | .query _ _ | .queryPage _ _ => List Row
  | .queryFirst _ _ => Option Row
  | .queryScalar _ _ => Option Json
  | .tables => List TableRef
  | .columns _ => List Column
  | .foreignKeys _ => List ForeignKey
  | .triggers _ => List Trigger
  | .tableDefinition _ | .serverVersion => Option String
  | .info => Handle.Info
  | .foreach _ _ => Batch

/-- Iterate over tables: nothing is called where the iteration cannot start. -/
def iteration (tables : List String) (calls : List BatchCall) : Action Batch := do
  let handle ← Action.current
  let batch ← Action.answer (Batch.start handle tables)
  batch.iterate calls

/-- Carry an operation out. -/
def perform : (operation : Operation) → Action operation.Answer
  | .openConnection => Handle.openConnection
  | .closeConnection => Handle.closeConnection
  | .beginTransaction => Handle.beginTransaction
  | .commit => Handle.commit
  | .rollback => Handle.rollback
  | .execute sql params => Handle.execute sql params
  | .query sql params => Handle.query sql params
  | .queryFirst sql params => Handle.queryFirst sql params
  | .queryScalar sql params => Handle.queryScalar sql params
  | .queryPage table request => Handle.queryPage table request
  | .tables => Handle.tables
  | .columns table => Handle.columns table
  | .foreignKeys table => Handle.foreignKeys table
  | .triggers table => Handle.triggers table
  | .tableDefinition table => Handle.tableDefinition table
  | .changeDatabase name => Handle.changeDatabase name
  | .createDatabase name => Handle.createDatabase name
  | .serverVersion => Handle.serverVersion
  | .info => Handle.info
  | .foreach names calls => iteration names calls

end Operation

/-- Carry operations out one after another, each whether or not those before it have failed. -/
def course : List Operation → Action Unit
  | [] => pure ()
  | operation :: rest => do
    let _ ← operation.perform.attempt
    course rest

/-- A course goes on where its first operation has left the handle. -/
theorem course_cons (operation : Operation) (rest : List Operation) (driver : Driver)
    (handle : Handle) :
    course (operation :: rest) driver handle =
      let step := operation.perform driver handle
      let later := course rest (driver.after step.calls.length) step.handle
      ⟨later.result, step.calls ++ later.calls, later.handle⟩ := rfl

end SqlAccess
