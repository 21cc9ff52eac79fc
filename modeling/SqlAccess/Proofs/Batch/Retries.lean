import SqlAccess.Proofs.Batch.Refusals

/-!
# Batches that have failed

A batch that fails stays sealed, and is what the next materializing runs. That holds as long as
nothing is begun: the end of another round seals what was queued in it, and the batch that has
failed is no longer there. Main statement: on every iteration that can be reached, once a batch has
failed and any calls have come that the phases admit, the next materializing runs the last round as
a whole, and the batch that has failed only where there was no round. So its operations are run
again exactly where nothing came in between or the last round has queued all of them again.

The calls in between are told by the phases alone. That they make up whole rounds is shown first.
-/

namespace SqlAccess

/-- The phase after a call, where the phase admits it. -/
def BatchPhase.after? : BatchPhase → BatchCall → Option BatchPhase
  | .notStarted, .begin | .closed, .begin => some .collecting
  | .collecting, .push _ => some .collecting
  | .collecting, .finish => some .closed
  | .closed, .materialize => some .closed
  | _, _ => none

/-- A call has no phase after it exactly where there is a reason against it. -/
theorem BatchPhase.after?_eq_none_iff {phase : BatchPhase} {call : BatchCall} :
    phase.after? call = none ↔ ∃ reason, call.untimely? phase = some reason := by
  cases phase <;> cases call <;> simp [after?, BatchCall.untimely?]

/-- A call that the phase admits leads to the phase after it, whether or not a batch that it runs
succeeds. -/
theorem BatchCall.perform_phase {call : BatchCall} {batch : Batch} {next : BatchPhase}
    (admitted : batch.phase.after? call = some next) (driver : Driver) (handle : Handle) :
    (call.perform batch driver handle).batch.phase = next := by
  obtain ⟨tables, phase, queued, waiting, lastEmpty, results⟩ := batch
  cases call with
  | begin | finish | push _ => cases phase <;> cases admitted <;> rfl
  | materialize =>
    cases phase with
    | notStarted | collecting => cases admitted
    | closed =>
      cases admitted
      cases waiting with
      | none => rfl
      | some operations =>
        simp only [perform, Batch.materialize, ne_eq, not_true_eq_false, if_false]
        cases (Batch.run tables operations driver handle).result <;> rfl

namespace BatchCall

/-- The calls of a round: a beginning, what is queued, and the end. -/
def round (operations : List BatchOperation) : List BatchCall :=
  .begin :: (operations.map .push ++ [.finish])

/-- Calls that the phases admit and that materialize nothing make up rounds, from a closed batch to
a closed one. From a batch that is collecting they first bring its own round to an end.

The induction is on the calls, for both phases at once, because a beginning and an end lead from
each to the other. -/
theorem exists_rounds {calls : List BatchCall} (quiet : .materialize ∉ calls) :
    (calls.foldlM BatchPhase.after? .closed = some .closed →
      ∃ rounds : List (List BatchOperation), calls = rounds.flatMap round) ∧
    (calls.foldlM BatchPhase.after? .collecting = some .closed →
      ∃ (queued : List BatchOperation) (rounds : List (List BatchOperation)),
        calls = queued.map .push ++ .finish :: rounds.flatMap round) := by
  induction calls with
  | nil => exact ⟨fun _ => ⟨[], rfl⟩, fun impossible => nomatch impossible⟩
  | cons call rest inductionHypothesis =>
    obtain ⟨fromClosed, fromCollecting⟩ := inductionHypothesis fun member =>
      quiet (List.mem_cons_of_mem call member)
    rw [List.foldlM_cons, List.foldlM_cons]
    constructor
    · intro admitted
      cases call with
      | begin =>
        obtain ⟨queued, rounds, rfl⟩ := fromCollecting admitted
        exact ⟨queued :: rounds, by simp [round]⟩
      | materialize => exact absurd List.mem_cons_self quiet
      | finish | push _ => cases admitted
    · intro admitted
      cases call with
      | push operation =>
        obtain ⟨queued, rounds, rfl⟩ := fromCollecting admitted
        exact ⟨operation :: queued, rounds, rfl⟩
      | finish =>
        obtain ⟨rounds, rfl⟩ := fromClosed admitted
        exact ⟨[], rounds, rfl⟩
      | begin | materialize => cases admitted

end BatchCall

namespace Batch

variable {batch : Batch} {failed operations : List BatchOperation} {handle : Handle}

/-- While a batch collects, what is queued goes behind what was. -/
theorem iterate_pushes (collecting : batch.phase = .collecting) (operations : List BatchOperation)
    (rest : List BatchCall) :
    batch.iterate (operations.map .push ++ rest) =
      { batch with queued := batch.queued ++ operations }.iterate rest := by
  induction operations generalizing batch with
  | nil => rw [List.append_nil, List.map_nil, List.nil_append]
  | cons operation others inductionHypothesis =>
    have pushed : batch.push operation =
        .ok { batch with queued := batch.queued ++ [operation] } := if_pos collecting
    rw [List.map_cons, List.cons_append, iterate, BatchCall.made_push, pushed, pure_bind]
    refine (@inductionHypothesis { batch with queued := batch.queued ++ [operation] }
      collecting).trans ?_
    simp only [List.append_assoc, List.singleton_append]

/-- A round seals what is queued in it, whatever was sealed before. -/
theorem iterate_round (closed : batch.phase = .closed) (operations : List BatchOperation)
    (rest : List BatchCall) :
    batch.iterate (BatchCall.round operations ++ rest) =
      { batch with queued := [], sealed := some operations }.iterate rest := by
  obtain ⟨tables, phase, queued, waiting, lastEmpty, results⟩ := batch
  subst closed
  rw [BatchCall.round, List.cons_append, iterate, BatchCall.made_begin, pure_bind,
    List.append_assoc]
  refine (iterate_pushes rfl operations _).trans ?_
  rw [List.singleton_append, iterate, BatchCall.made_finish, pure_bind]
  rfl

/-- After rounds the last of them is sealed, and where there is none, what was before. -/
theorem iterate_rounds (closed : batch.phase = .closed) (pending : batch.sealed = some failed)
    (rounds : List (List BatchOperation)) :
    ∃ after : Batch, batch.iterate (rounds.flatMap BatchCall.round) = pure after ∧
      after.tables = batch.tables ∧ after.phase = .closed ∧
      after.sealed = some (rounds.getLast?.getD failed) := by
  induction rounds generalizing batch failed with
  | nil => exact ⟨batch, rfl, rfl, closed, pending⟩
  | cons operations others inductionHypothesis =>
    obtain ⟨after, made, listed, ended, waits⟩ := @inductionHypothesis
      { batch with queued := [], sealed := some operations } operations closed rfl
    refine ⟨after, ?_, listed, ended, ?_⟩
    · rw [List.flatMap_cons, iterate_round closed]
      exact made
    · rw [waits, List.getLast?_cons, Option.getD_some]

/-- A task stands in a schedule where its table is listed and its operation is asked for. -/
theorem mem_schedule {tables : List String} {table : String} {operation : BatchOperation} :
    (table, operation) ∈ schedule tables operations ↔
      table ∈ tables ∧ operation ∈ operations := by
  simp [schedule]

/-- Over any tables a schedule covers another one where it has all the operations. -/
theorem schedule_subset_iff {tables : List String} {first second : List BatchOperation}
    (listed : tables ≠ []) :
    schedule tables first ⊆ schedule tables second ↔ first ⊆ second := by
  obtain ⟨table, member⟩ := List.exists_mem_of_ne_nil tables listed
  constructor
  · intro covered operation asked
    exact (mem_schedule.mp (covered (mem_schedule.mpr ⟨member, asked⟩))).2
  · rintro covered ⟨table, operation⟩ task
    obtain ⟨isListed, asked⟩ := mem_schedule.mp task
    exact mem_schedule.mpr ⟨isListed, covered asked⟩

end Batch

/-- What is run next after a batch has failed, with some rounds in between. -/
structure Batch.RunsNext (batch : Batch) (failed : List BatchOperation)
    (rounds : List (List BatchOperation)) (after : Batch) (handle : Handle) : Prop where
  /-- The rounds lead to this batch, and ask nothing of the driver. -/
  reached : ∀ driver,
    batch.iterate (rounds.flatMap BatchCall.round) driver handle = ⟨.ok after, [], handle⟩
  /-- The last round is run as a whole, or where there is none what has failed. -/
  runs : ∀ driver, after.RunsWhole (rounds.getLast?.getD failed) driver handle
  /-- Every operation that has failed is run again on every table exactly where there is no round,
  or where the last one has all of them. -/
  again : Batch.schedule batch.tables failed ⊆
      Batch.schedule after.tables (rounds.getLast?.getD failed) ↔
    ∀ last, rounds.getLast? = some last → failed ⊆ last

namespace Batch

variable {batch : Batch} {failed : List BatchOperation} {handle : Handle}

/-- After rounds a sealed batch runs the last of them. -/
theorem runs_next (closed : batch.phase = .closed) (pending : batch.sealed = some failed)
    (listed : batch.tables ≠ []) (rounds : List (List BatchOperation)) (handle : Handle) :
    ∃ after, batch.RunsNext failed rounds after handle := by
  obtain ⟨after, made, sameTables, ended, waits⟩ := iterate_rounds closed pending rounds
  refine ⟨after, fun driver => ?_, fun driver => runs_whole ended waits driver handle, ?_⟩
  · rw [made]
    rfl
  · rw [sameTables, schedule_subset_iff listed]
    cases rounds.getLast? with
    | none => simp
    | some last => simp

/-- An iteration starts over some tables. -/
theorem listed_of_start {tables : List String} {fresh : Batch}
    (started : start handle tables = .ok fresh) : tables ≠ [] := by
  rintro rfl
  cases started

end Batch

/-- What has failed is run again unless another round comes first. On every iteration that can be
reached, over any tables, after any calls and with any answers of the driver: a batch that fails
stays as it was, and whatever calls the phases admit before it is run again, they make up rounds, of
which the last one is run in its place.

Proof: what waits is the operations that were sealed; a failed run gives the batch back as it was.
Calls that the phases admit and that run nothing come in rounds of beginning, pushing and ending,
each of which seals what it has pushed, so that by induction on the rounds the last one is what is
sealed. -/
theorem iterate_runs_next (handle : Handle) (tables : List String) (fresh : Batch)
    (started : Batch.start handle tables = .ok fresh) (calls : List BatchCall) (past : Driver) :
    ∃ batch, (fresh.iterate calls past handle).result = .ok batch ∧
      (fresh.iterate calls past handle).handle = handle ∧
      ∀ driver error, batch.phase = .closed →
        (batch.materialize driver handle).step.result = .error error →
          (batch.materialize driver handle).batch = batch ∧
          (batch.materialize driver handle).step.handle = handle ∧
          ∃ failed, batch.sealed = some failed ∧ batch.RunsWhole failed driver handle ∧
            ∀ between, .materialize ∉ between →
              between.foldlM BatchPhase.after? .closed = some .closed →
                ∃ rounds after, between = rounds.flatMap BatchCall.round ∧
                  batch.RunsNext failed rounds after handle := by
  have listed := Batch.listed_of_start started
  obtain ⟨held, rfl⟩ := Batch.of_start started
  obtain ⟨batch, ended, kept⟩ := Batch.iterate_tables calls
    ⟨tables, .notStarted, [], none, false, .empty⟩
  refine ⟨batch, ended, Batch.iterate_leaves held calls _ past,
    fun driver error closed failed => ?_⟩
  have sameTables : batch.tables = tables := kept
  cases pending : batch.sealed with
  | none =>
    rw [Batch.materialize_unsealed closed pending] at failed
    cases failed
  | some operations =>
    have whole := Batch.runs_whole closed pending driver handle
    rw [Batch.materialize_failed closed pending ((whole.fails error).mp failed)]
    refine ⟨rfl, Batch.survey_leaves held _ driver, operations, rfl, whole,
      fun between quiet admitted => ?_⟩
    obtain ⟨rounds, isRounds⟩ := (BatchCall.exists_rounds quiet).1 admitted
    obtain ⟨after, next⟩ :=
      Batch.runs_next closed pending (sameTables ▸ listed) rounds handle
    exact ⟨rounds, after, isRounds, next⟩

/-- A driver that is busy: every query fails. -/
def Driver.busy : Driver := .steady
  { Answers.unpopulated .sqlite with query := fun _ _ => .error (.database "busy" none none) }

/-- Columns of one table that a busy driver does not list, with a round in between that asks for the
columns again and for the definition. -/
theorem iterate_runs_next_requeued :
    let handle : Handle := ⟨.sqlite, "sqlite:file.db", some 1, false, 1⟩
    let fresh : Batch := ⟨["a"], .notStarted, [], none, false, .empty⟩
    let calls : List BatchCall := [.begin, .push .columns, .finish]
    let between : List BatchCall := [.begin, .push .definition, .push .columns, .finish]
    Batch.start handle ["a"] = .ok fresh ∧
      ∃ batch, (fresh.iterate calls .busy handle).result = .ok batch ∧ batch.phase = .closed ∧
        (batch.materialize .busy handle).step.result = .error (.database "busy" none none) ∧
        .materialize ∉ between ∧ between.foldlM BatchPhase.after? .closed = some .closed ∧
        ∃ failed, batch.sealed = some failed ∧
          ∃ rounds after, between = rounds.flatMap BatchCall.round ∧
            batch.RunsNext failed rounds after handle := by
  intro handle fresh calls between
  obtain ⟨batch, ended, _, retries⟩ := iterate_runs_next handle ["a"] fresh rfl calls .busy
  have reached : batch = ⟨["a"], .closed, [], some [.columns], false, .empty⟩ :=
    Except.ok.inj (ended.symm.trans rfl)
  have closed : batch.phase = .closed := by rw [reached]
  have failing : (batch.materialize .busy handle).step.result =
      .error (.database "busy" none none) := by
    rw [reached]
    rfl
  have quiet : .materialize ∉ between := by simp [between]
  obtain ⟨_, _, failed, pending, _, next⟩ := retries .busy _ closed failing
  exact ⟨rfl, batch, ended, closed, failing, quiet, rfl, failed, pending,
    next between quiet rfl⟩

/-- A batch that is lost. The columns of a table are asked for, and the run of that batch fails. A
round that asks for the definition comes in between, as the phases admit. The next run succeeds with
the definition alone; then nothing is pending, and the columns have not been found. -/
theorem iterate_loses_failed :
    let handle : Handle := ⟨.sqlite, "sqlite:file.db", some 1, false, 1⟩
    let fresh : Batch := ⟨["a"], .notStarted, [], none, false, .empty⟩
    let batch : Batch := ⟨["a"], .closed, [], some [.columns], false, .empty⟩
    let after : Batch := ⟨["a"], .closed, [], some [.definition], false, .empty⟩
    let found : MetadataMap :=
      MetadataMap.empty.insert "a" { TableMetadata.unasked "a" with definition := some none }
    let recovered := Driver.steady (.unpopulated .sqlite)
    Batch.start handle ["a"] = .ok fresh ∧
      fresh.iterate [.begin, .push .columns, .finish] .busy handle = ⟨.ok batch, [], handle⟩ ∧
      (batch.materialize .busy handle).step.result = .error (.database "busy" none none) ∧
      (batch.materialize .busy handle).batch = batch ∧
      [.begin, .push .definition, .finish].foldlM BatchPhase.after? .closed = some .closed ∧
      batch.iterate [.begin, .push .definition, .finish] recovered handle =
        ⟨.ok after, [], handle⟩ ∧
      after.materialize recovered handle =
        ⟨⟨.ok (some found), [.sent 1 (.query (Catalog.tablesQuery .sqlite) [])], handle⟩,
          ⟨["a"], .closed, [], none, false, found⟩⟩ ∧
      ("a", .columns) ∈ Batch.schedule ["a"] [.columns] ∧
      (found.get? "a").bind (·.columns) = none :=
  ⟨rfl, rfl, rfl, rfl, rfl, rfl, rfl, by decide, rfl⟩

end SqlAccess
