import SqlAccess.Proofs.Batch.Consumption
import SqlAccess.Proofs.Connection.Refusals

/-!
# Refusals of iterations

A call to an iteration over tables is refused when it comes at the wrong time, or when the batch
that it runs is. Main statement: with an honest driver every refusal of an operation on a handle and
of a call to an iteration comes before any call of the driver and leaves everything as it was, but
for what is judged late, which is named. The exceptions are real: a page without a limit is refused
behind the list of tables, and a pair of empty quotes on a connection that was opened for it.
-/

namespace SqlAccess

/-- What has been called stays called, whatever follows. -/
theorem Action.calls_bind_ne_nil {α β : Type} {action : Action α} {next : α → Action β}
    {driver : Driver} {handle : Handle} (called : (action driver handle).calls ≠ []) :
    ((action >>= next) driver handle).calls ≠ [] := by
  cases answered : (action driver handle).result with
  | error error => rwa [and_then_of_error action next driver handle error answered]
  | ok value =>
    rw [and_then_of_ok action next driver handle value answered]
    exact fun none => called (List.append_eq_nil_iff.mp none).1

section Asking

variable {handle : Handle} {number : Nat} {table : String}

/-- All that a batch asks about a table is plain work on the entry that its name stands for. -/
theorem BatchOperation.ask_eq (operation : BatchOperation) (table : String) :
    ∃ (missing : operation.kind.Value)
      (looked : Dialect → TableRef → Work operation.kind.Value),
      (∀ dialect entry, (looked dialect entry).Plain) ∧
      operation.ask table = Handle.aboutTable table fun dialect =>
        Catalog.withTable dialect table missing (looked dialect) := by
  cases operation with
  | data request =>
    exact ⟨[], fun dialect => Catalog.pageOf dialect request,
      fun dialect => Catalog.page_of_plain dialect request, rfl⟩
  | columns =>
    exact ⟨[], Catalog.columnsOf,
      fun dialect entry => (Catalog.columns_of_lookup dialect entry).plain, rfl⟩
  | foreignKeys =>
    exact ⟨[], Catalog.foreignKeysOf,
      fun dialect entry => (Catalog.foreign_keys_of_lookup dialect entry).plain, rfl⟩
  | triggers =>
    exact ⟨[], Catalog.triggersOf,
      fun dialect entry => (Catalog.triggers_of_lookup dialect entry).plain, rfl⟩
  | definition =>
    exact ⟨none, Catalog.definitionOf,
      fun dialect entry => (Catalog.definition_of_lookup dialect entry).plain, rfl⟩

/-- On a held connection nothing is asked about a table exactly when its name names none. -/
theorem BatchOperation.ask_silent_iff (held : handle.connection = some number)
    (shown : Text.isBlankText table = false) (operation : BatchOperation) (driver : Driver) :
    (operation.ask table driver handle).calls = [] ↔ (TableName.parse table).isOk = false := by
  obtain ⟨missing, looked, _, asks⟩ := operation.ask_eq table
  rw [asks, Handle.about_table_eq_run shown, Handle.run_held _ held, List.map_eq_nil_iff]
  exact Catalog.with_table_silent_iff

/-- A survey asks nothing exactly when the first of its names names no table, for then it ends
there. -/
theorem Batch.survey_silent_iff (held : handle.connection = some number)
    (shown : Text.isBlankText table = false) (operation : BatchOperation)
    (rest : List (String × BatchOperation)) (driver : Driver) :
    (survey ((table, operation) :: rest) driver handle).calls = [] ↔
      (TableName.parse table).isOk = false := by
  have first := BatchOperation.ask_silent_iff held shown operation driver
  constructor
  · intro silent
    refine first.mp ?_
    by_contra asked
    exact Action.calls_bind_ne_nil asked silent
  · intro unnamed
    obtain ⟨missing, looked, _, asks⟩ := operation.ask_eq table
    cases parsed : TableName.parse table with
    | ok requested =>
      rw [parsed] at unnamed
      cases unnamed
    | error error =>
      have failed : (operation.ask table driver handle).result = .error error := by
        rw [asks, Handle.about_table_eq_run shown, Handle.run_held _ held,
          Catalog.with_table_unnamed parsed]
      rw [survey, Action.and_then_of_error _ _ driver handle error failed]
      exact first.mpr unnamed

end Asking

namespace BatchCall

/-- True where a refusal of the call comes late: a batch is run, and the first of its names stands
for a table, which is looked up. -/
def judgesLate (call : BatchCall) (batch : Batch) : Bool :=
  match call with
  | .materialize =>
    batch.phase = .closed && batch.tables.head?.any fun table => (TableName.parse table).isOk
  | _ => false

/-- No call changes which tables are listed. -/
theorem perform_tables (call : BatchCall) (batch : Batch) (driver : Driver) (handle : Handle) :
    (call.perform batch driver handle).batch.tables = batch.tables := by
  obtain ⟨tables, phase, queued, sealed, lastEmpty, results⟩ := batch
  cases call with
  | begin => cases phase <;> rfl
  | finish => cases phase <;> rfl
  | push operation => cases phase <;> rfl
  | materialize =>
    cases phase with
    | notStarted | collecting => rfl
    | closed =>
      cases sealed with
      | none => rfl
      | some operations =>
        simp only [perform, Batch.materialize, ne_eq, not_true_eq_false, if_false]
        cases (Batch.run tables operations driver handle).result <;> rfl

end BatchCall

/-- A survey of a batch that fails has asked nothing exactly where the name of its first table names
none, and it leaves the handle that it borrows. -/
theorem Batch.survey_refuses {batch : Batch} {operations : List BatchOperation} {driver : Driver}
    {handle : Handle} {error : Error} (held : handle.connection.isSome = true)
    (closed : batch.phase = .closed)
    (shown : ∀ table ∈ batch.tables, Text.isBlankText table = false)
    (failed : (survey (schedule batch.tables operations) driver handle).result = .error error) :
    Step.Refuses (α := Option MetadataMap)
      ⟨.error error, (survey (schedule batch.tables operations) driver handle).calls,
        (survey (schedule batch.tables operations) driver handle).handle⟩ handle
      (BatchCall.materialize.judgesLate batch) := by
  have left := survey_leaves held (schedule batch.tables operations) driver
  obtain ⟨number, connected⟩ := Option.isSome_iff_exists.mp held
  cases listed : batch.tables with
  | nil =>
    rw [listed] at failed
    cases failed
  | cons table others =>
    cases operations with
    | nil =>
      have nothing : schedule batch.tables [] = [] := by simp [schedule]
      rw [nothing] at failed
      cases failed
    | cons operation later =>
      have silent := survey_silent_iff connected
        (shown table (listed ▸ List.mem_cons_self)) operation
        (later.map (fun operation => (table, operation)) ++ schedule others (operation :: later))
        driver
      have late : BatchCall.materialize.judgesLate batch = (TableName.parse table).isOk := by
        simp [BatchCall.judgesLate, closed, listed]
      rw [listed] at left
      rw [late]
      refine ⟨fun early => ⟨silent.mpr early, left⟩, fun asked => ⟨fun none => ?_, ?_⟩⟩
      · rw [silent.mp none] at asked
        cases asked
      · rw [connected]
        exact left

namespace BatchCall

variable {call : BatchCall} {batch : Batch} {driver : Driver} {handle : Handle} {error : Error}

/-- A call that comes at the wrong time does not judge late. -/
theorem judges_late_of_untimely {reason : String}
    (untimely : call.untimely? batch.phase = some reason) : call.judgesLate batch = false := by
  cases call with
  | materialize =>
    have notClosed : batch.phase ≠ .closed := by
      intro closed
      rw [closed] at untimely
      cases untimely
    simp [judgesLate, notClosed]
  | _ => rfl

/-- Only a closed batch can be run. -/
theorem closed_of_timely (timely : materialize.untimely? batch.phase = none) :
    batch.phase = .closed := by
  cases phase : batch.phase with
  | closed => rfl
  | notStarted | collecting =>
    rw [phase] at timely
    cases timely

/-- A call to an iteration in the hands of a handle that holds a connection is refused outright, or
late where it judges late; the batch stays what it was. -/
theorem perform_refuses (held : handle.connection.isSome = true)
    (shown : ∀ table ∈ batch.tables, Text.isBlankText table = false)
    (refused : (call.perform batch driver handle).step.result = .error error) :
    (call.perform batch driver handle).step.Refuses handle (call.judgesLate batch) ∧
      (call.perform batch driver handle).batch = batch := by
  cases untimely : call.untimely? batch.phase with
  | some reason =>
    rw [perform_untimely untimely, judges_late_of_untimely untimely]
    exact ⟨⟨fun _ => ⟨rfl, rfl⟩, fun impossible => nomatch impossible⟩, rfl⟩
  | none =>
    rcases perform_timely untimely with rfl | carriedOut
    · have closed := closed_of_timely untimely
      simp only [perform] at refused ⊢
      cases pending : batch.sealed with
      | none =>
        rw [Batch.materialize_unsealed closed pending] at refused
        cases refused
      | some operations =>
        have failed := ((Batch.runs_whole closed pending driver handle).fails error).mp refused
        rw [Batch.materialize_failed closed pending failed]
        exact ⟨Batch.survey_refuses held closed shown failed, rfl⟩
    · rw [carriedOut] at refused
      cases refused

end BatchCall

/-- Calls to an iteration keep its tables. -/
theorem Batch.iterate_tables (calls : List BatchCall) (batch : Batch) {driver : Driver}
    {handle : Handle} :
    ∃ after, (batch.iterate calls driver handle).result = .ok after ∧
      after.tables = batch.tables := by
  induction calls generalizing batch driver handle with
  | nil => exact ⟨batch, rfl, rfl⟩
  | cons call rest inductionHypothesis =>
    rw [iterate, Action.and_then_of_ok _ _ driver handle _ rfl]
    obtain ⟨after, ended, kept⟩ := inductionHypothesis
      (call.perform batch driver handle).batch
    exact ⟨after, ended, kept.trans (call.perform_tables batch driver handle)⟩

/-- An iteration starts over names that are not blank. -/
theorem Batch.shown_of_start {handle : Handle} {tables : List String} {fresh : Batch}
    (started : start handle tables = .ok fresh) :
    ∀ table ∈ tables, Text.isBlankText table = false := by
  unfold start at started
  split at started
  · cases started
  · split at started
    · cases started
    · rename_i shown
      simpa using shown

/-- A refusal leaves everything untouched, unless it is late. For every operation with any
arguments, on every handle: a refusal comes before any call and leaves the handle as it was, but for
the operations that judge late. For every call to an iteration that can be reached, from any start
and after any calls on any driver: the same, and the batch is what it was. Every scripted driver is
honest.

Proof: by cases on the operations, each of which either asks nothing before it refuses, or is among
those that judge late; an honest driver never answers with a refusal of its own, so an error from a
call is none. For iterations the calls before leave the handle as it is and the tables as they were
listed, which is all that the refusal of the next call needs. -/
theorem refusal_untouched (driver : Driver) (honest : driver.Honest) :
    (∀ (operation : Operation) (handle : Handle) (error : Error),
      (operation.perform driver handle).result = .error error → error.isRefusal = true →
        (operation.perform driver handle).Refuses handle (operation.judgesLate handle)) ∧
    ∀ (handle : Handle) (tables : List String) (fresh : Batch),
      Batch.start handle tables = .ok fresh → ∀ (calls : List BatchCall) (past : Driver),
        ∃ batch, (fresh.iterate calls past handle).result = .ok batch ∧
          (fresh.iterate calls past handle).handle = handle ∧
          ∀ (call : BatchCall) (error : Error),
            (call.perform batch driver handle).step.result = .error error →
              error.isRefusal = true →
                (call.perform batch driver handle).step.Refuses handle (call.judgesLate batch) ∧
                (call.perform batch driver handle).batch = batch := by
  refine ⟨fun operation handle error => operation.perform_refuses honest, ?_⟩
  intro handle tables fresh started calls past
  obtain ⟨held, rfl⟩ := Batch.of_start started
  obtain ⟨batch, ended, kept⟩ := Batch.iterate_tables calls
    ⟨tables, .notStarted, [], none, false, .empty⟩
  refine ⟨batch, ended, Batch.iterate_leaves held calls _ past, fun call error refused _ => ?_⟩
  have listed : batch.tables = tables := kept
  have shown : ∀ table ∈ batch.tables, Text.isBlankText table = false := by
    rw [listed]
    exact Batch.shown_of_start started
  exact call.perform_refuses held shown refused

/-- A result fails as it does without its value. -/
theorem error_of_map {α : Type} {result : Except Error α} {error : Error}
    (failed : result.map (fun _ => ()) = .error error) : result = .error error := by
  cases result with
  | error other => exact congrArg Except.error (Except.error.inj failed)
  | ok value => cases failed

/-- A script whose catalog lists one table. -/
def Script.listingUsers : Script where
  responses := [⟨"sqlite_master", none, .ok [[("name", .string "users")]]⟩]
  affected := 1
  version := none
  failures := {}

/-- Four refusals beside an open connection: a database name and an end at the wrong time outright,
and a page without a limit late, on the handle and in a batch. -/
theorem refusal_untouched_outright :
    let driver := Script.listingUsers.driver
    let handle : Handle := ⟨.sqlite, "sqlite:app.db", some 1, false, 1⟩
    let elsewhere : Operation := .changeDatabase "../x"
    let request : Page.Request := ⟨.keyset, 0, .offset 0, "id", none⟩
    let paged : Operation := .queryPage "users" request
    let fresh : Batch := ⟨["users", "orders"], .notStarted, [], none, false, .empty⟩
    let calls : List BatchCall := [.begin, .push (.data request), .finish]
    driver.Honest ∧
      (elsewhere.judgesLate handle = false ∧
        (elsewhere.perform driver handle).result =
          .error (.databaseName "../x" "must start with a letter or underscore") ∧
        (elsewhere.perform driver handle).Refuses handle (elsewhere.judgesLate handle)) ∧
      (paged.judgesLate handle = true ∧
        (paged.perform driver handle).result =
          .error (.invalidState "pagination limit must be positive") ∧
        (paged.perform driver handle).Refuses handle (paged.judgesLate handle)) ∧
      Batch.start handle ["users", "orders"] = .ok fresh ∧
      ∃ batch, (fresh.iterate calls driver handle).result = .ok batch ∧
        (BatchCall.finish.judgesLate batch = false ∧
          (BatchCall.finish.perform batch driver handle).step.result =
            .error (.invalidState "cannot end a foreach batch that is closed") ∧
          (BatchCall.finish.perform batch driver handle).step.Refuses handle
            (BatchCall.finish.judgesLate batch)) ∧
        (BatchCall.materialize.judgesLate batch = true ∧
          (BatchCall.materialize.perform batch driver handle).step.result =
            .error (.invalidState "pagination limit must be positive") ∧
          (BatchCall.materialize.perform batch driver handle).step.Refuses handle
            (BatchCall.materialize.judgesLate batch) ∧
          (BatchCall.materialize.perform batch driver handle).batch = batch) := by
  intro driver handle elsewhere request paged fresh calls
  have honest : driver.Honest := Driver.honest_of_scripts fun _ => Script.listingUsers
  obtain ⟨operations, iterations⟩ := refusal_untouched driver honest
  have misnamed : (elsewhere.perform driver handle).result =
      .error (.databaseName "../x" "must start with a letter or underscore") :=
    error_of_map (by decide +kernel)
  have read : (paged.perform driver handle).result =
      .error (.invalidState "pagination limit must be positive") :=
    error_of_map (by decide +kernel)
  obtain ⟨batch, ended, _, refusals⟩ :=
    iterations handle ["users", "orders"] fresh rfl calls driver
  have reached :
      batch = ⟨["users", "orders"], .closed, [], some [.data request], false, .empty⟩ :=
    Except.ok.inj (ended.symm.trans rfl)
  have again : (BatchCall.finish.perform batch driver handle).step.result =
      .error (.invalidState "cannot end a foreach batch that is closed") := by
    rw [reached]
    exact error_of_map (by decide +kernel)
  have ran : (BatchCall.materialize.perform batch driver handle).step.result =
      .error (.invalidState "pagination limit must be positive") := by
    rw [reached]
    exact error_of_map (by decide +kernel)
  have late : BatchCall.materialize.judgesLate batch = true := by
    rw [reached]
    decide +kernel
  exact ⟨honest, ⟨rfl, misnamed, operations _ _ _ misnamed rfl⟩,
    ⟨by decide +kernel, read, operations _ _ _ read rfl⟩, rfl, batch, ended,
    ⟨rfl, again, (refusals _ _ again rfl).1⟩, late, ran, refusals _ _ ran rfl⟩

/-- Two refusals that do not come before the driver is touched. A page is refused on an open handle
once the tables have been listed, although its limit was known before; and quotes without a name
are refused on a closed handle once a connection has been opened and closed. -/
theorem refusal_late :
    let driver := Script.listingUsers.driver
    let closed := Handle.closed .sqlite "sqlite:app.db"
    let opened := (course [.openConnection] driver closed).handle
    let page :=
      (Operation.queryPage "users" ⟨.limitOffset, 0, .offset 0, "id", none⟩).perform driver
        opened
    let columns := (Operation.columns "\"\"").perform driver closed
    (page.result = .error (.invalidState "pagination limit must be positive") ∧
      page.calls = [.sent 1 (.query (Catalog.tablesQuery .sqlite) [])]) ∧
    (columns.result = .error (.configuration "'\"\"' does not name a table") ∧
      columns.calls = [.opening 1 "sqlite:app.db", .sent 1 .close]) :=
  ⟨⟨error_of_map (by decide +kernel), by decide +kernel⟩, error_of_map (by decide +kernel),
    by decide +kernel⟩

end SqlAccess
