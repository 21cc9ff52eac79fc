import SqlAccess.Proofs.Batch.Refusals

/-!
# The transcript of a batch

A batch is a nested loop over tables and operations that ends at its first failure, and each of its
operations asks the driver for a number of things that depends on the answers. Main statement: on a
driver that does not change its mind, materializing asks for exactly what the operations ask for
when each of them is made alone on the same handle, table by table and in the order in which they
were queued. Where one fails, all that it has asked is there, and nothing behind it.

All of it is asked on the connection that the handle holds, and nothing of it opens, closes, begins
or ends anything, so it goes on inside a transaction as outside, and the handle is what it was.
-/

namespace SqlAccess

/-- On a handle the action makes plain requests of one connection, and no other call. -/
def Action.Sends {α : Type} (number : Nat) (handle : Handle) (action : Action α) : Prop :=
  ∀ driver, ∀ call ∈ (action driver handle).calls,
    ∃ command, call = .sent number command ∧ command.isPlain = true

section Sending

variable {α β : Type} {handle : Handle} {number : Nat}

/-- An answer makes no call. -/
theorem Action.sends_answer (result : Except Error α) :
    (Action.answer result).Sends number handle := by
  intro driver call member
  exact absurd member List.not_mem_nil

/-- An attempt makes the calls of the action. -/
theorem Action.sends_attempt {action : Action α} (sends : action.Sends number handle) :
    action.attempt.Sends number handle := sends

/-- Two actions make plain requests where each of them does, if the first one leaves the handle to
the second. -/
theorem Action.sends_bind {action : Action α} {next : α → Action β}
    (left : action.Leaves handle) (first : action.Sends number handle)
    (second : ∀ value, (next value).Sends number handle) :
    (action >>= next).Sends number handle := by
  intro driver call member
  cases answered : (action driver handle).result with
  | error error =>
    rw [Action.and_then_of_error action next driver handle error answered] at member
    exact first driver call member
  | ok value =>
    rw [Action.and_then_of_ok action next driver handle value answered] at member
    dsimp only at member
    rw [left driver] at member
    rcases List.mem_append.mp member with earlier | later
    · exact first driver call earlier
    · exact second value _ call later

/-- Plain work about a table makes plain requests of the held connection. -/
theorem Handle.about_table_sends (held : handle.connection = some number) (table : String)
    {work : Dialect → Work α} (plain : ∀ dialect, (work dialect).Plain) :
    (Handle.aboutTable table work).Sends number handle := by
  intro driver call member
  cases blank : Text.isBlankText table with
  | true =>
    rw [Handle.about_table_blank blank] at member
    exact absurd member List.not_mem_nil
  | false =>
    rw [Handle.about_table_eq_run blank, Handle.run_held _ held] at member
    obtain ⟨command, asked, rfl⟩ := List.mem_map.mp member
    exact ⟨command, rfl, plain handle.dialect driver command asked⟩

/-- So does every operation of a batch. -/
theorem BatchOperation.ask_sends (held : handle.connection = some number)
    (operation : BatchOperation) (table : String) :
    (operation.ask table).Sends number handle := by
  obtain ⟨missing, looked, plain, asks⟩ := operation.ask_eq table
  rw [asks]
  apply Handle.about_table_sends held table
  intro dialect
  exact Catalog.with_table_plain dialect table missing (plain dialect)

/-- So does a survey, task by task. -/
theorem Batch.survey_sends (held : handle.connection = some number)
    (tasks : List (String × BatchOperation)) : (Batch.survey tasks).Sends number handle := by
  have connected : handle.connection.isSome = true :=
    Option.isSome_iff_exists.mpr ⟨number, held⟩
  induction tasks with
  | nil => exact Action.sends_answer _
  | cons task rest inductionHypothesis =>
    apply Action.sends_bind (BatchOperation.ask_leaves connected task.2 task.1)
      (BatchOperation.ask_sends held task.2 task.1)
    intro value
    apply Action.sends_bind (Batch.survey_leaves connected rest) inductionHypothesis
    intro findings
    exact Action.sends_answer _

/-- So does a whole iteration, call by call. -/
theorem Batch.iterate_sends (held : handle.connection = some number) (calls : List BatchCall)
    (batch : Batch) : (batch.iterate calls).Sends number handle := by
  have connected : handle.connection.isSome = true :=
    Option.isSome_iff_exists.mpr ⟨number, held⟩
  induction calls generalizing batch with
  | nil => exact Action.sends_answer _
  | cons call rest inductionHypothesis =>
    refine Action.sends_bind (Batch.made_leaves connected call batch) ?_ inductionHypothesis
    rcases Batch.made_cases call batch with ⟨after, made⟩ | ⟨operations, made⟩
    · rw [made]
      exact Action.sends_answer _
    · rw [made]
      apply Action.sends_bind (Action.leaves_attempt (Batch.survey_leaves connected _))
        (Action.sends_attempt (Batch.survey_sends held _))
      intro outcome
      exact Action.sends_answer _

end Sending

namespace Batch

/-- A task of a batch, made alone as the operation of the handle that it stands for. -/
def alone (driver : Driver) (handle : Handle) (task : String × BatchOperation) :
    Step task.2.kind.Value := task.2.ask task.1 driver handle

/-- What tasks ask for when each of them is made alone. -/
def callsAlone (driver : Driver) (handle : Handle) (tasks : List (String × BatchOperation)) :
    List Call := tasks.flatMap fun task => (alone driver handle task).calls

variable {answers : Answers} {handle : Handle} {number : Nat}

/-- A survey ends with a task that fails. -/
theorem survey_cons_failed {driver : Driver} {task : String × BatchOperation}
    (rest : List (String × BatchOperation)) {error : Error}
    (failed : (alone driver handle task).result = .error error) :
    survey (task :: rest) driver handle =
      ⟨.error error, (alone driver handle task).calls, (alone driver handle task).handle⟩ :=
  Action.and_then_of_error _ _ driver handle error failed

/-- Behind a task that succeeds a survey goes on with the same handle, and with the same driver
where that does not change its mind. -/
theorem survey_cons_succeeded (held : handle.connection = some number)
    {task : String × BatchOperation} (rest : List (String × BatchOperation))
    {value : task.2.kind.Value}
    (succeeded : (alone (.steady answers) handle task).result = .ok value) :
    survey (task :: rest) (.steady answers) handle =
      ⟨(survey rest (.steady answers) handle).result.map (⟨task.1, task.2.kind, value⟩ :: ·),
        (alone (.steady answers) handle task).calls ++
          (survey rest (.steady answers) handle).calls,
        (survey rest (.steady answers) handle).handle⟩ := by
  have kept : (alone (.steady answers) handle task).handle = handle :=
    BatchOperation.ask_leaves (Option.isSome_iff_exists.mpr ⟨number, held⟩) task.2 task.1 _
  unfold alone at succeeded kept ⊢
  rw [survey, Action.and_then_of_ok _ _ _ handle value succeeded]
  simp only [kept, Driver.after_steady, Action.and_then_pure]

/-- The calls of a survey that succeeds are those of all its tasks. -/
theorem survey_succeeds (held : handle.connection = some number)
    (tasks : List (String × BatchOperation)) {findings : List Finding}
    (surveyed : (survey tasks (.steady answers) handle).result = .ok findings) :
    (∀ task ∈ tasks, (alone (.steady answers) handle task).result.isOk = true) ∧
      (survey tasks (.steady answers) handle).calls =
        callsAlone (.steady answers) handle tasks := by
  induction tasks generalizing findings with
  | nil =>
    constructor
    · intro task member
      exact absurd member List.not_mem_nil
    · rfl
  | cons task rest inductionHypothesis =>
    cases asked : (alone (.steady answers) handle task).result with
    | error error =>
      rw [survey_cons_failed rest asked] at surveyed
      cases surveyed
    | ok value =>
      have whole := survey_cons_succeeded held rest asked
      rw [whole] at surveyed ⊢
      cases later : (survey rest (.steady answers) handle).result with
      | error error =>
        rw [later] at surveyed
        cases surveyed
      | ok others =>
        obtain ⟨succeeded, calls⟩ := inductionHypothesis later
        constructor
        · refine List.forall_mem_cons.mpr ⟨?_, succeeded⟩
          rw [asked]
          rfl
        · rw [calls]
          rfl

/-- The calls of a survey that fails are those of its tasks up to the first that fails, with all
that this one has asked. -/
theorem survey_fails (held : handle.connection = some number)
    (tasks : List (String × BatchOperation)) {error : Error}
    (failed : (survey tasks (.steady answers) handle).result = .error error) :
    ∃ before failing after, tasks = before ++ failing :: after ∧
      (∀ task ∈ before, (alone (.steady answers) handle task).result.isOk = true) ∧
      (alone (.steady answers) handle failing).result = .error error ∧
      (survey tasks (.steady answers) handle).calls =
        callsAlone (.steady answers) handle (before ++ [failing]) := by
  induction tasks with
  | nil => cases failed
  | cons task rest inductionHypothesis =>
    cases asked : (alone (.steady answers) handle task).result with
    | error reason =>
      rw [survey_cons_failed rest asked] at failed ⊢
      cases failed
      refine ⟨[], task, rest, rfl, ?_, asked, ?_⟩
      · intro other member
        exact absurd member List.not_mem_nil
      · simp [callsAlone]
    | ok value =>
      have whole := survey_cons_succeeded held rest asked
      rw [whole] at failed ⊢
      cases later : (survey rest (.steady answers) handle).result with
      | ok others =>
        rw [later] at failed
        cases failed
      | error reason =>
        rw [later] at failed
        cases failed
        obtain ⟨before, failing, after, split, succeeded, stopped, calls⟩ :=
          inductionHypothesis later
        refine ⟨task :: before, failing, after, ?_, ?_, stopped, ?_⟩
        · rw [split, List.cons_append]
        · refine List.forall_mem_cons.mpr ⟨?_, succeeded⟩
          rw [asked]
          rfl
        · rw [calls]
          rfl

/-- What materializing a sealed batch does, told by what each of its tasks does alone on the same
handle. -/
structure WorksAsAlone (step : Step (Option MetadataMap)) (driver : Driver) (handle : Handle)
    (tasks : List (String × BatchOperation)) : Prop where
  /-- Where it succeeds, every task succeeds alone, and the calls are theirs in a row. -/
  whole : step.result.isOk = true →
    (∀ task ∈ tasks, (alone driver handle task).result.isOk = true) ∧
      step.calls = callsAlone driver handle tasks
  /-- Where it fails, it fails as the first task does that fails alone, and the calls are those of
  the tasks up to this one. -/
  cut : ∀ error, step.result = .error error →
    ∃ before failing after, tasks = before ++ failing :: after ∧
      (∀ task ∈ before, (alone driver handle task).result.isOk = true) ∧
      (alone driver handle failing).result = .error error ∧
      step.calls = callsAlone driver handle (before ++ [failing])
  /-- Nothing is opened, closed, begun or ended, and no other connection is called. -/
  sent : ∀ call ∈ step.calls, ∃ number command,
    handle.connection = some number ∧ call = .sent number command ∧ command.isPlain = true
  /-- State, connection and connection string are what they were. -/
  kept : step.handle = handle

end Batch

/-- A batch does exactly the work of the direct operations: on every handle that holds a connection,
with a transaction on it or without, and on every driver that does not change its mind.

Proof: a batch that is run surveys its schedule and then gathers the findings. The survey asks what
the direct operations ask, one behind the other, up to the first that fails; on a steady driver what
was asked before changes no answer. -/
theorem materialize_works_as_alone (answers : Answers) (handle : Handle) (batch : Batch)
    (operations : List BatchOperation) (held : handle.connection.isSome = true)
    (closed : batch.phase = .closed) (pending : batch.sealed = some operations) :
    Batch.WorksAsAlone (batch.materialize (.steady answers) handle).step (.steady answers) handle
      (Batch.schedule batch.tables operations) := by
  obtain ⟨number, connected⟩ := Option.isSome_iff_exists.mp held
  have kept := Batch.survey_leaves held (Batch.schedule batch.tables operations) (.steady answers)
  have sent : ∀ call ∈ (Batch.survey (Batch.schedule batch.tables operations) (.steady answers)
      handle).calls, ∃ number command, handle.connection = some number ∧
        call = .sent number command ∧ command.isPlain = true := by
    intro call member
    obtain ⟨command, asked, plain⟩ := Batch.survey_sends connected _ _ call member
    exact ⟨number, command, connected, asked, plain⟩
  cases surveyed : (Batch.survey (Batch.schedule batch.tables operations) (.steady answers)
      handle).result with
  | ok findings =>
    rw [Batch.materialize_succeeded closed pending surveyed]
    refine ⟨fun _ => Batch.survey_succeeds connected _ surveyed, ?_, sent, kept⟩
    intro _ impossible
    cases impossible
  | error error =>
    rw [Batch.materialize_failed closed pending surveyed]
    refine ⟨?_, ?_, sent, kept⟩
    · intro impossible
      cases impossible
    · intro _ same
      cases same
      exact Batch.survey_fails connected _ surveyed

/-- A batch that fails midway, inside a transaction: the columns and the references of the first
table take two queries each, a page without a limit is refused behind the list of tables, and the
second table is never asked about. -/
theorem materialize_works_as_alone_midway :
    let answers := { Answers.unpopulated .sqlite with
      query := fun _ params => .ok (if params.isEmpty then [[("name", .string "users")]] else []) }
    let handle : Handle := ⟨.sqlite, "sqlite:app.db", some 2, true, 2⟩
    let operations : List BatchOperation :=
      [.columns, .foreignKeys, .data ⟨.keyset, 0, .offset 0, "id", none⟩]
    let batch : Batch := ⟨["users", "orders"], .closed, [], some operations, false, .empty⟩
    let step := (batch.materialize (.steady answers) handle).step
    handle.connection.isSome = true ∧ batch.phase = .closed ∧ batch.sealed = some operations ∧
      step.result.isOk = false ∧ step.calls.length = 5 ∧
      Batch.WorksAsAlone step (.steady answers) handle
        (Batch.schedule batch.tables operations) :=
  ⟨rfl, rfl, rfl, by decide +kernel, by decide +kernel,
    materialize_works_as_alone _ _ _ _ rfl rfl rfl⟩

end SqlAccess
