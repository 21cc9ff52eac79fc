import SqlAccess.Proofs.Batch.Overlay

/-!
# A batch is consumed whole, and once

Materializing either fails and leaves everything as it was, or consumes the sealed batch and lays
all of it over the results. Main statement: on every iteration that can be reached, whatever the
driver answers, a batch that has failed is run again as a whole, from its first table; one that
has succeeded is never run again, and until the next beginning the answer stays what it was. The
answer is nothing exactly when the batch that was consumed last asked for nothing. A call that
comes at the wrong time is refused, changes nothing and asks nothing.

An iteration borrows a handle that holds a connection, so all its work runs there. That no work
changes the handle is shown first.
-/

namespace SqlAccess

/-- An action leaves a handle as it is, whatever the driver answers. -/
def Action.Leaves {α : Type} (handle : Handle) (action : Action α) : Prop :=
  ∀ driver, (action driver handle).handle = handle

section Leaves

variable {α β : Type} {handle : Handle}

/-- An answer leaves every handle. -/
theorem Action.leaves_answer (result : Except Error α) : (Action.answer result).Leaves handle :=
  fun _ => rfl

/-- Two actions leave a handle where each of them does. -/
theorem Action.leaves_bind {action : Action α} {next : α → Action β}
    (first : action.Leaves handle)
    (second : ∀ value, (next value).Leaves handle) : (action >>= next).Leaves handle := by
  intro driver
  cases answered : (action driver handle).result with
  | error error =>
    rw [Action.and_then_of_error action next driver handle error answered]
    exact first driver
  | ok value =>
    rw [Action.and_then_of_ok action next driver handle value answered]
    dsimp only
    rw [first driver]
    exact second value _

/-- An attempt leaves a handle where the action does. -/
theorem Action.leaves_attempt {action : Action α} (left : action.Leaves handle) :
    action.attempt.Leaves handle := left

/-- Work about a table runs on the connection that is held. -/
theorem Handle.about_table_leaves (held : handle.connection.isSome = true) (table : String)
    (work : Dialect → Work α) : (Handle.aboutTable table work).Leaves handle := by
  have runs (dialect : Dialect) : (Handle.run (work dialect)).Leaves handle := by
    intro driver
    obtain ⟨number, connected⟩ := Option.isSome_iff_exists.mp held
    simp only [Handle.run, connected]
  apply Action.leaves_bind (Action.leaves_answer _)
  intro _
  apply Action.leaves_bind (fun _ => rfl)
  intro seen
  exact runs seen.dialect

/-- So does every operation of a batch. -/
theorem BatchOperation.ask_leaves (held : handle.connection.isSome = true)
    (operation : BatchOperation) (table : String) : (operation.ask table).Leaves handle := by
  cases operation with
  | data request =>
    exact Handle.about_table_leaves held table fun dialect => Catalog.page dialect request table
  | columns =>
    exact Handle.about_table_leaves held table fun dialect => Catalog.columns dialect table
  | foreignKeys =>
    exact Handle.about_table_leaves held table fun dialect => Catalog.foreignKeys dialect table
  | triggers =>
    exact Handle.about_table_leaves held table fun dialect => Catalog.triggers dialect table
  | definition =>
    exact Handle.about_table_leaves held table fun dialect => Catalog.definition dialect table

/-- A survey leaves a handle that holds a connection. -/
theorem Batch.survey_leaves (held : handle.connection.isSome = true)
    (tasks : List (String × BatchOperation)) : (Batch.survey tasks).Leaves handle := by
  induction tasks with
  | nil => exact Action.leaves_answer _
  | cons task rest inductionHypothesis =>
    apply Action.leaves_bind (BatchOperation.ask_leaves held task.2 task.1)
    intro value
    apply Action.leaves_bind inductionHypothesis
    intro findings
    exact Action.leaves_answer _

end Leaves

namespace Batch

variable {batch : Batch} {operations : List BatchOperation} {driver : Driver} {handle : Handle}

/-- Where the survey of the sealed operations fails, only the error and the calls remain of it. -/
theorem materialize_failed (closed : batch.phase = .closed)
    (pending : batch.sealed = some operations)
    {error : Error} (failed : (survey (schedule batch.tables operations) driver handle).result =
      .error error) :
    batch.materialize driver handle =
      ⟨⟨.error error, (survey (schedule batch.tables operations) driver handle).calls,
        (survey (schedule batch.tables operations) driver handle).handle⟩, batch⟩ := by
  simp only [materialize, closed, pending, run_eq_gather, Action.and_then_pure, failed, ne_eq,
    not_true_eq_false, if_false, Except.map]

/-- Where it succeeds, the batch is settled by what was found. -/
theorem materialize_succeeded (closed : batch.phase = .closed)
    (pending : batch.sealed = some operations) {findings : List Finding}
    (surveyed : (survey (schedule batch.tables operations) driver handle).result = .ok findings) :
    batch.materialize driver handle =
      let after := batch.settled operations (.ok (MetadataMap.empty.gather findings))
      ⟨⟨.ok after.answer, (survey (schedule batch.tables operations) driver handle).calls,
        (survey (schedule batch.tables operations) driver handle).handle⟩, after⟩ := by
  simp only [materialize, closed, pending, run_eq_gather, Action.and_then_pure, surveyed, ne_eq,
    not_true_eq_false, if_false, Except.map, settled]

/-- Where nothing is sealed, the answer is given as it stands. -/
theorem materialize_unsealed (closed : batch.phase = .closed) (nothing : batch.sealed = none) :
    batch.materialize driver handle = ⟨⟨.ok batch.answer, [], handle⟩, batch⟩ := by
  simp only [materialize, closed, nothing, ne_eq, not_true_eq_false, if_false]

end Batch

namespace BatchCall

/-- Why a phase does not admit a call. -/
def untimely? : BatchCall → BatchPhase → Option String
  | .begin, .collecting => some "foreach batch already started"
  | .begin, _ | .finish, .collecting | .push _, .collecting | .materialize, .closed => none
  | .finish, phase => some ("cannot end a foreach batch that is " ++ phase.text)
  | .push operation, phase =>
    some ("cannot queue " ++ operation.diagnostic ++ " while the foreach batch is " ++ phase.text)
  | .materialize, phase =>
    some ("foreach results are not available while the batch is " ++ phase.text)

variable {call : BatchCall} {batch : Batch} {driver : Driver} {handle : Handle}

/-- A call that comes at the wrong time is refused, and that is all. -/
theorem perform_untimely {reason : String} (untimely : call.untimely? batch.phase = some reason) :
    call.perform batch driver handle =
      ⟨⟨.error (.invalidState reason), [], handle⟩, batch⟩ := by
  obtain ⟨tables, phase, queued, sealed, lastEmpty, results⟩ := batch
  cases call <;> cases phase <;> cases untimely <;> rfl

/-- A call at the right time is not refused, unless it runs a batch. -/
theorem perform_timely (timely : call.untimely? batch.phase = none) :
    call = .materialize ∨ (call.perform batch driver handle).step.result = .ok none := by
  obtain ⟨tables, phase, queued, sealed, lastEmpty, results⟩ := batch
  cases call <;> cases phase <;> first | exact Or.inl rfl | exact Or.inr rfl | cases timely

/-- Calls other than beginnings leave a batch that is closed and has nothing sealed, and ask
nothing. So do those that do not materialize, whatever is sealed. -/
theorem iterate_idle (closed : batch.phase = .closed) {calls : List BatchCall}
    (idle : ∀ call ∈ calls, call ≠ .begin ∧ (call = .materialize → batch.sealed = none)) :
    batch.iterate calls driver handle = ⟨.ok batch, [], handle⟩ := by
  induction calls with
  | nil => rfl
  | cons call rest inductionHypothesis =>
    obtain ⟨notBegin, unsealed⟩ := idle call List.mem_cons_self
    have stays : call.made batch = pure batch := by
      cases call with
      | begin => exact absurd rfl notBegin
      | finish => rw [made_finish, Batch.finish, closed]; rfl
      | push operation => rw [made_push, Batch.push, closed]; rfl
      | materialize => exact made_unsealed batch fun _ => unsealed rfl
    rw [Batch.iterate, stays, pure_bind]
    exact inductionHypothesis fun later member => idle later (List.mem_cons_of_mem call member)

end BatchCall

/-- What a batch over some tables has done is a history of harvests: they are laid over one another
in its results, and a closed batch with nothing sealed has consumed the last of them and remembers
whether it asked for nothing. -/
structure Batch.AccountsFor (batch : Batch) (tables : List String) (history : List Harvest) :
    Prop where
  listed : batch.tables = tables
  laid : batch.results = history.foldl Harvest.laidOver .empty
  complete : ∀ harvest ∈ history, harvest.Complete tables
  last : batch.phase = .closed → batch.sealed = none →
    ∃ past consumed, history = past ++ [consumed] ∧
      batch.lastEmpty = consumed.operations.isEmpty

/-- A value that an action gives back can be told from another one. -/
theorem Action.pure_injective {α : Type} {first second : α}
    (same : (pure first : Action α) = pure second) : first = second := by
  have steps := congrFun (congrFun same (Driver.unpopulated .sqlite)) (Handle.closed .sqlite "")
  exact Except.ok.inj (congrArg Step.result steps)

namespace Batch.AccountsFor

variable {batch : Batch} {tables : List String} {history : List Harvest}

/-- A call that runs nothing keeps the account: what it seals has still to be consumed. -/
theorem made (accounts : batch.AccountsFor tables history) (call : BatchCall) {after : Batch}
    (nothingDue : batch.draft.due? call = none) (made : call.made batch = pure after) :
    after.AccountsFor tables history := by
  obtain ⟨listed, laid, complete, last⟩ := accounts
  obtain ⟨_, phase, queued, sealed, lastEmpty, results⟩ := batch
  cases call with
  | begin =>
    rw [← Action.pure_injective ((BatchCall.made_begin _).symm.trans made)]
    cases phase <;> exact ⟨listed, laid, complete, fun closed => nomatch closed⟩
  | finish =>
    rw [← Action.pure_injective ((BatchCall.made_finish _).symm.trans made)]
    cases phase with
    | notStarted | closed => exact ⟨listed, laid, complete, last⟩
    | collecting => exact ⟨listed, laid, complete, fun _ unsealed => nomatch unsealed⟩
  | push operation =>
    rw [← Action.pure_injective ((BatchCall.made_push operation _).symm.trans made)]
    cases phase with
    | notStarted | closed => exact ⟨listed, laid, complete, last⟩
    | collecting => exact ⟨listed, laid, complete, fun closed => nomatch closed⟩
  | materialize =>
    have unsealed : phase = .closed → sealed = none := by
      rintro rfl
      exact nothingDue
    rw [← Action.pure_injective ((BatchCall.made_unsealed _ unsealed).symm.trans made)]
    exact ⟨listed, laid, complete, last⟩

/-- A batch that is run with success is the last one of the longer history. -/
theorem settled (accounts : batch.AccountsFor tables history) {operations : List BatchOperation}
    {findings : List Finding} {driver : Driver} {handle : Handle}
    (surveyed : (survey (schedule tables operations) driver handle).result = .ok findings) :
    (batch.settled operations (.ok (MetadataMap.empty.gather findings))).AccountsFor tables
      (history ++ [⟨operations, findings⟩]) where
  listed := accounts.listed
  laid := by
    rw [List.foldl_append, ← accounts.laid]
    rfl
  complete harvest member := by
    rcases List.mem_append.mp member with earlier | now
    · exact accounts.complete harvest earlier
    · rw [List.mem_singleton.mp now]
      exact survey_complete _ surveyed
  last _ _ := ⟨history, ⟨operations, findings⟩, rfl, rfl⟩

/-- The account holds after any calls.

The induction is on the calls, and follows the harvests and the iteration side by side. A batch
that fails is the one it was, so nothing is added to its history. -/
theorem iterate (accounts : batch.AccountsFor tables history) (calls : List BatchCall)
    {driver : Driver} {handle : Handle} {later : List Harvest}
    (harvested : (harvests tables calls batch.draft driver handle).result = .ok later)
    {final : Batch} (ended : (batch.iterate calls driver handle).result = .ok final) :
    final.AccountsFor tables (history ++ later) := by
  induction calls generalizing batch history driver handle later with
  | nil =>
    cases harvested
    cases ended
    rw [List.append_nil]
    exact accounts
  | cons call rest inductionHypothesis =>
    cases due : batch.draft.due? call with
    | none =>
      obtain ⟨after, made, _, _, moved⟩ := call.made_of_none batch due
      rw [harvests_of_none _ _ due, ← moved] at harvested
      rw [Batch.iterate, made, pure_bind] at ended
      exact inductionHypothesis (accounts.made call due made) harvested ended
    | some operations =>
      obtain ⟨rfl, closed, pending⟩ := Batch.sealed_of_due due
      rw [harvests_of_due _ _ due, Action.and_then_of_ok _ _ driver handle _ rfl] at harvested
      simp only [Batch.iterate, BatchCall.made_sealed batch operations closed pending,
        accounts.listed, run_eq_gather, Action.attempt_map, bind_assoc, pure_bind] at ended
      rw [Action.and_then_of_ok _ _ driver handle _ rfl] at ended
      cases surveyed : (survey (schedule tables operations) driver handle).result with
      | error error =>
        simp only [surveyed] at harvested ended
        exact inductionHypothesis accounts harvested ended
      | ok findings =>
        simp only [surveyed] at harvested ended
        obtain ⟨others, othersHarvested, same⟩ := Action.and_then_ok harvested
        cases same
        have rests : (batch.settled operations
            (.ok (MetadataMap.empty.gather findings))).draft = .resting none := by
          simp only [Batch.settled, draft, closed]
        have step := inductionHypothesis (accounts.settled surveyed)
          (by rw [rests]; exact othersHarvested) ended
        rw [List.append_assoc, List.singleton_append] at step
        exact step

/-- What a history has laid over one another is its overlay. -/
theorem overlaid (accounts : batch.AccountsFor tables history) :
    Overlaid tables history batch.results := by
  have kept := (Keeps.empty tables).foldl history accounts.complete
  rw [← accounts.laid] at kept
  exact kept.overlaid

end Batch.AccountsFor

/-- The driver is asked all operations on all tables, from the first table on. The batch fails
where one of them does, and otherwise all that was found is laid over the results at once. -/
structure Batch.RunsWhole (batch : Batch) (operations : List BatchOperation) (driver : Driver)
    (handle : Handle) : Prop where
  calls : (batch.materialize driver handle).step.calls =
    (survey (schedule batch.tables operations) driver handle).calls
  fails : ∀ error, (batch.materialize driver handle).step.result = .error error ↔
    (survey (schedule batch.tables operations) driver handle).result = .error error
  consumes : ∀ findings,
    (survey (schedule batch.tables operations) driver handle).result = .ok findings →
      (batch.materialize driver handle).batch.sealed = none ∧
        (batch.materialize driver handle).batch.results =
          Harvest.laidOver batch.results ⟨operations, findings⟩

/-- What materializing does in the hands of a handle to a batch with a history, whatever the
driver answers from then on. -/
structure Batch.ConsumesOnce (batch : Batch) (history : List Harvest) (handle : Handle) :
    Prop where
  /-- A batch that fails leaves itself and the handle as they were. Calls that are no beginning
  change nothing, and the next time all of it is run. -/
  failed : batch.phase = .closed → ∀ driver error,
    (batch.materialize driver handle).step.result = .error error →
      (batch.materialize driver handle).batch = batch ∧
      (batch.materialize driver handle).step.handle = handle ∧
      ∃ operations, batch.sealed = some operations ∧
        ∀ between, (∀ call ∈ between, call ≠ .begin ∧ call ≠ .materialize) →
          ∀ later, batch.iterate between later handle = ⟨.ok batch, [], handle⟩ ∧
            batch.RunsWhole operations later handle
  /-- After a success the history ends in the batch that was consumed last: the one that was
  sealed, or else the last one before. The answer is nothing exactly when it asked for nothing,
  and otherwise the overlay of the whole history. Until the next beginning the answer is given
  again without a call. -/
  consumed : batch.phase = .closed → ∀ driver answer,
    (batch.materialize driver handle).step.result = .ok answer →
      let after := (batch.materialize driver handle).batch
      (batch.materialize driver handle).step.handle = handle ∧
      (∃ past last,
        (batch.sealed = none → past ++ [last] = history) ∧
        (∀ operations, batch.sealed = some operations →
          past = history ∧ last.operations = operations ∧
          (survey (schedule batch.tables operations) driver handle).result = .ok last.findings) ∧
        Overlaid batch.tables (past ++ [last]) after.results ∧
        (answer = none ↔ last.operations = []) ∧
        (last.operations ≠ [] → answer = some after.results)) ∧
      ∀ between, (∀ call ∈ between, call ≠ .begin) → ∀ later,
        after.iterate between later handle = ⟨.ok after, [], handle⟩ ∧
        after.materialize later handle = ⟨⟨.ok answer, [], handle⟩, after⟩
  /-- Before the first end, and while operations are collected, there is nothing to run. -/
  early : batch.phase ≠ .closed → ∀ driver,
    batch.materialize driver handle =
      ⟨⟨.error (.invalidState ("foreach results are not available while the batch is " ++
        batch.phase.text)), [], handle⟩, batch⟩
  /-- What the phase does not admit is refused with its reason, and calls and changes nothing. -/
  refused : ∀ (call : BatchCall) (reason : String),
    call.untimely? batch.phase = some reason → ∀ driver,
    call.perform batch driver handle = ⟨⟨.error (.invalidState reason), [], handle⟩, batch⟩
  /-- All else is carried out, but for a batch that fails. -/
  admitted : ∀ call : BatchCall, call.untimely? batch.phase = none → ∀ driver,
    (call = .materialize ∧ batch.phase = .closed) ∨
      (call.perform batch driver handle).step.result = .ok none

namespace Batch

variable {batch : Batch} {tables : List String} {history : List Harvest} {handle : Handle}

/-- A batch that is closed and sealed runs as a whole. -/
theorem runs_whole (closed : batch.phase = .closed) {operations : List BatchOperation}
    (pending : batch.sealed = some operations) (driver : Driver) (handle : Handle) :
    batch.RunsWhole operations driver handle := by
  cases surveyed : (survey (schedule batch.tables operations) driver handle).result with
  | error error =>
    have ran := materialize_failed closed pending surveyed
    refine ⟨?_, fun other => ?_, fun findings impossible => ?_⟩
    · rw [ran]
    · simp only [ran, surveyed, Except.error.injEq]
    · rw [surveyed] at impossible
      cases impossible
  | ok findings =>
    have ran := materialize_succeeded closed pending surveyed
    refine ⟨?_, fun other => ?_, fun same found => ?_⟩
    · rw [ran]
    · rw [ran, surveyed]
      exact iff_of_false (fun impossible => nomatch impossible) fun impossible => nomatch impossible
    · rw [surveyed] at found
      cases found
      rw [ran]
      exact ⟨rfl, rfl⟩

/-- The answer tells whether the batch that was consumed last asked for nothing. -/
theorem answer_of_last_empty {operations : List BatchOperation}
    (remembered : batch.lastEmpty = operations.isEmpty) :
    (batch.answer = none ↔ operations = []) ∧
      (operations ≠ [] → batch.answer = some batch.results) := by
  cases operations <;> simp [answer, remembered]

/-- Once nothing is sealed, the answer stays until the next beginning. -/
theorem answer_stays (closed : batch.phase = .closed) (nothing : batch.sealed = none)
    {between : List BatchCall} (idle : ∀ call ∈ between, call ≠ .begin) (later : Driver) :
    batch.iterate between later handle = ⟨.ok batch, [], handle⟩ ∧
      batch.materialize later handle = ⟨⟨.ok batch.answer, [], handle⟩, batch⟩ :=
  ⟨BatchCall.iterate_idle closed fun call member => ⟨idle call member, fun _ => nothing⟩,
    materialize_unsealed closed nothing⟩

/-- A batch with an account, in the hands of a handle that holds a connection, is consumed once. -/
theorem AccountsFor.consumes_once (accounts : batch.AccountsFor tables history)
    (held : handle.connection.isSome = true) : batch.ConsumesOnce history handle where
  failed closed driver error failed := by
    cases pending : batch.sealed with
    | none =>
      rw [materialize_unsealed closed pending] at failed
      cases failed
    | some operations =>
      have reason := ((runs_whole closed pending driver handle).fails error).mp failed
      rw [materialize_failed closed pending reason]
      refine ⟨rfl, survey_leaves held _ driver, operations, rfl, fun between idle later => ?_⟩
      exact ⟨BatchCall.iterate_idle closed fun call member =>
          ⟨(idle call member).1, fun isRun => absurd isRun (idle call member).2⟩,
        runs_whole closed pending later handle⟩
  consumed closed driver answer answered := by
    cases pending : batch.sealed with
    | none =>
      obtain ⟨past, last, isHistory, remembered⟩ := accounts.last closed pending
      rw [materialize_unsealed closed pending] at answered ⊢
      cases answered
      refine ⟨rfl, ⟨past, last, ?_, ?_, ?_, ?_⟩, fun between idle later => ?_⟩
      · exact fun _ => isHistory.symm
      · exact fun _ impossible => nomatch impossible
      · rw [← isHistory, accounts.listed]
        exact accounts.overlaid
      · exact answer_of_last_empty remembered
      · exact answer_stays closed pending idle later
    | some operations =>
      cases surveyed : (survey (schedule batch.tables operations) driver handle).result with
      | error error =>
        rw [materialize_failed closed pending surveyed] at answered
        cases answered
      | ok findings =>
        rw [materialize_succeeded closed pending surveyed] at answered ⊢
        cases answered
        have after := accounts.settled (accounts.listed ▸ surveyed)
        have staysClosed : (batch.settled operations
            (.ok (MetadataMap.empty.gather findings))).phase = .closed := closed
        refine ⟨survey_leaves held _ driver,
          ⟨history, ⟨operations, findings⟩, ?_, ?_, ?_, ?_⟩,
          fun between idle later => ?_⟩
        · exact fun impossible => nomatch impossible
        · intro same isSealed
          cases isSealed
          exact ⟨rfl, rfl, surveyed⟩
        · rw [accounts.listed]
          exact after.overlaid
        · exact answer_of_last_empty rfl
        · exact answer_stays staysClosed rfl idle later
  early notClosed driver := by
    simp only [materialize, ne_eq, notClosed, not_false_eq_true, if_true]
  refused call reason untimely driver := BatchCall.perform_untimely untimely
  admitted call timely driver := by
    rcases BatchCall.perform_timely timely with rfl | carriedOut
    · refine Or.inl ⟨rfl, ?_⟩
      cases phase : batch.phase with
      | closed => rfl
      | notStarted | collecting =>
        rw [phase] at timely
        cases timely
    · exact Or.inr carriedOut

/-- A call to an iteration asks nothing of the driver, or attempts a survey. -/
theorem made_cases (call : BatchCall) (batch : Batch) :
    (∃ after, call.made batch = pure after) ∨
      ∃ operations, call.made batch =
        (survey (schedule batch.tables operations)).attempt >>= fun outcome =>
          pure (batch.settled operations (outcome.map MetadataMap.empty.gather)) := by
  cases due : batch.draft.due? call with
  | none =>
    obtain ⟨after, made, _⟩ := call.made_of_none batch due
    exact Or.inl ⟨after, made⟩
  | some operations =>
    obtain ⟨rfl, closed, pending⟩ := sealed_of_due due
    refine Or.inr ⟨operations, ?_⟩
    simp only [BatchCall.made_sealed batch operations closed pending, run_eq_gather,
      Action.attempt_map, bind_assoc, pure_bind]

/-- A call to an iteration leaves a handle that holds a connection. -/
theorem made_leaves (held : handle.connection.isSome = true) (call : BatchCall) (batch : Batch) :
    (call.made batch).Leaves handle := by
  rcases made_cases call batch with ⟨after, made⟩ | ⟨operations, made⟩
  · rw [made]
    exact Action.leaves_answer _
  · rw [made]
    apply Action.leaves_bind (Action.leaves_attempt (survey_leaves held _))
    intro outcome
    exact Action.leaves_answer _

/-- An iteration leaves a handle that holds a connection. -/
theorem iterate_leaves (held : handle.connection.isSome = true) (calls : List BatchCall)
    (batch : Batch) : (batch.iterate calls).Leaves handle := by
  induction calls generalizing batch with
  | nil => exact Action.leaves_answer _
  | cons call rest inductionHypothesis =>
    exact Action.leaves_bind (made_leaves held call batch) inductionHypothesis

/-- Only a handle that holds a connection can start an iteration, and it starts with nothing. -/
theorem of_start {fresh : Batch} (started : start handle tables = .ok fresh) :
    handle.connection.isSome = true ∧
      fresh = ⟨tables, .notStarted, [], none, false, .empty⟩ := by
  unfold start at started
  split at started
  · cases started
  · split at started
    · cases started
    · split at started
      · cases started
      · rename_i held
        cases started
        exact ⟨by simpa [Option.isNone_iff_eq_none, Option.isSome_iff_ne_none] using held, rfl⟩

end Batch

/-- A sealed batch is consumed as a whole and once, on every iteration that can be reached: over
any tables, after any calls, with any answers of the driver before and after.

Proof: an invariant of the iteration says what its batch accounts for, given the history of
harvests. It holds at the start and is kept by every call; of a batch that it holds of, that it is
consumed once follows from what a run over a survey does. -/
theorem iterate_consumes_once (handle : Handle) (tables : List String) (fresh : Batch)
    (started : Batch.start handle tables = .ok fresh) (calls : List BatchCall) (driver : Driver) :
    ∃ batch history,
      (fresh.iterate calls driver handle).result = .ok batch ∧
      (harvests tables calls (.resting none) driver handle).result = .ok history ∧
      batch.ConsumesOnce history (fresh.iterate calls driver handle).handle := by
  obtain ⟨held, rfl⟩ := Batch.of_start started
  obtain ⟨history, harvested, _⟩ := harvests_complete tables calls (.resting none) driver handle
  obtain ⟨batch, ended, _⟩ := Batch.iterate_results calls
    ⟨tables, .notStarted, [], none, false, .empty⟩ harvested
  have untouched : Batch.AccountsFor ⟨tables, .notStarted, [], none, false, .empty⟩ tables [] :=
    ⟨rfl, rfl, fun _ impossible => absurd impossible List.not_mem_nil,
      fun closed => nomatch closed⟩
  refine ⟨batch, history, ended, harvested, ?_⟩
  rw [Batch.iterate_leaves held calls _ driver]
  exact (untouched.iterate calls harvested ended).consumes_once held

/-- A batch over two tables that fails at first and is run again once the driver has recovered. -/
theorem iterate_consumes_once_recovered :
    let handle : Handle := ⟨.sqlite, "sqlite:file.db", some 1, true, 1⟩
    let fresh : Batch := ⟨["a", "b"], .notStarted, [], none, false, .empty⟩
    let calls : List BatchCall :=
      [.begin, .push .columns, .push .definition, .finish, .materialize, .materialize]
    let driver : Driver := fun call =>
      if call = 0 then
        { Answers.unpopulated .sqlite with query := fun _ _ => .error (.database "busy" none none) }
      else .unpopulated .sqlite
    Batch.start handle ["a", "b"] = .ok fresh ∧
      ∃ batch history,
        (fresh.iterate calls driver handle).result = .ok batch ∧
        (harvests ["a", "b"] calls (.resting none) driver handle).result = .ok history ∧
        batch.ConsumesOnce history (fresh.iterate calls driver handle).handle :=
  ⟨rfl, iterate_consumes_once _ _ _ rfl _ _⟩

end SqlAccess
