import SqlAccess.Proofs.Batch.Survey
import SqlAccess.Proofs.Connection.Course

/-!
# Harvests

What an iteration over tables has harvested is told without its results: from the calls it
follows which operations are asked for and when they are run, and each batch that succeeds gives
a harvest, which is the batch with its survey. A batch that fails gives none and waits to be run
again. Main statement: an iteration and its harvests ask the same of the driver, call by call, and
the results are the harvests laid over one another in their order.
-/

namespace SqlAccess

/-- A batch that was run with success. -/
structure Harvest where
  operations : List BatchOperation
  /-- What the operations returned, in the order in which they were run. -/
  findings : List Finding

/-- A harvest has a finding for every operation on every table. -/
def Harvest.Complete (tables : List String) (harvest : Harvest) : Prop :=
  harvest.findings.map (fun finding => (finding.table, finding.kind)) =
    (Batch.schedule tables harvest.operations).map fun task => (task.1, task.2.kind)

/-- Results with a harvest laid over them. -/
def Harvest.laidOver (results : MetadataMap) (harvest : Harvest) : MetadataMap :=
  Batch.merge results (MetadataMap.empty.gather harvest.findings)

/-- What the calls to an iteration have asked for so far. -/
inductive Draft where
  /-- Nothing is collected. A batch that has ended waits until it is run with success. -/
  | resting (waiting : Option (List BatchOperation))
  | collecting (queued : List BatchOperation)

namespace Draft

/-- The draft after a call that runs nothing. A beginning drops the batch that waits; calls that
come at the wrong time are refused and change nothing. -/
def after : Draft → BatchCall → Draft
  | .resting _, .begin => .collecting []
  | .collecting queued, .push operation => .collecting (queued ++ [operation])
  | .collecting queued, .finish => .resting (some queued)
  | draft, _ => draft

/-- The operations that a call runs. -/
def due? : Draft → BatchCall → Option (List BatchOperation)
  | .resting waiting, .materialize => waiting
  | _, _ => none

end Draft

/-- The harvests of calls that are made one after another. -/
def harvests (tables : List String) : List BatchCall → Draft → Action (List Harvest)
  | [], _ => return []
  | call :: rest, draft =>
    match draft.due? call with
    | none => harvests tables rest (draft.after call)
    | some operations => do
      match ← (Batch.survey (Batch.schedule tables operations)).attempt with
      | .error _ => harvests tables rest draft
      | .ok findings =>
        let later ← harvests tables rest (.resting none)
        return ⟨operations, findings⟩ :: later

/-- A call that runs nothing harvests nothing. -/
theorem harvests_of_none {call : BatchCall} {draft : Draft} (tables : List String)
    (rest : List BatchCall) (nothingDue : draft.due? call = none) :
    harvests tables (call :: rest) draft = harvests tables rest (draft.after call) := by
  simp only [harvests, nothingDue]

/-- A batch that is run gives its harvest or waits on. -/
theorem harvests_of_due {call : BatchCall} {draft : Draft} {operations : List BatchOperation}
    (tables : List String) (rest : List BatchCall) (due : draft.due? call = some operations) :
    harvests tables (call :: rest) draft =
      (Batch.survey (Batch.schedule tables operations)).attempt >>= fun outcome =>
        match outcome with
        | .error _ => harvests tables rest draft
        | .ok findings => harvests tables rest (.resting none) >>= fun later =>
          pure (⟨operations, findings⟩ :: later) := by
  simp only [harvests, due]

/-- The draft that a batch holds. -/
def Batch.draft (batch : Batch) : Draft :=
  match batch.phase with
  | .notStarted => .resting none
  | .collecting => .collecting batch.queued
  | .closed => .resting batch.sealed

/-- A call that runs nothing leaves the tables and the results, and moves the draft on. -/
theorem BatchCall.made_of_none (call : BatchCall) (batch : Batch)
    (nothingDue : batch.draft.due? call = none) :
    ∃ after : Batch, call.made batch = pure after ∧ after.tables = batch.tables ∧
      after.results = batch.results ∧ after.draft = batch.draft.after call := by
  obtain ⟨tables, phase, queued, sealed, lastEmpty, results⟩ := batch
  cases call with
  | begin =>
    refine ⟨_, made_begin _, ?_⟩
    cases phase <;> exact ⟨rfl, rfl, rfl⟩
  | finish =>
    refine ⟨_, made_finish _, ?_⟩
    cases phase <;> exact ⟨rfl, rfl, rfl⟩
  | push operation =>
    refine ⟨_, made_push operation _, ?_⟩
    cases phase <;> exact ⟨rfl, rfl, rfl⟩
  | materialize =>
    refine ⟨_, made_unsealed _ ?_, rfl, rfl, ?_⟩
    · rintro rfl
      exact nothingDue
    · cases phase <;> rfl

/-- A batch has operations to run when it is closed and they are sealed. -/
theorem Batch.sealed_of_due {batch : Batch} {call : BatchCall} {operations : List BatchOperation}
    (due : batch.draft.due? call = some operations) :
    call = .materialize ∧ batch.phase = .closed ∧ batch.sealed = some operations := by
  obtain ⟨tables, phase, queued, sealed, lastEmpty, results⟩ := batch
  cases phase <;> cases call <;> simp_all [Batch.draft, Draft.due?]

/-- The results of an iteration are its harvests laid over one another, and both ask the same of
the driver and leave the same handle.

The induction is on the calls. A batch that is run is its survey, by `Batch.run_eq_gather`; what
follows depends on whether the survey succeeds, so both ways are compared. -/
theorem Batch.iterate_eq_harvests (calls : List BatchCall) (batch : Batch) :
    (batch.iterate calls >>= fun final => pure final.results) =
      harvests batch.tables calls batch.draft >>= fun history =>
        pure (history.foldl Harvest.laidOver batch.results) := by
  induction calls generalizing batch with
  | nil => simp [Batch.iterate, harvests]
  | cons call rest inductionHypothesis =>
    cases due : batch.draft.due? call with
    | none =>
      obtain ⟨after, made, sameTables, sameResults, moved⟩ := call.made_of_none batch due
      simp only [Batch.iterate, made, pure_bind, harvests_of_none _ _ due, inductionHypothesis,
        sameTables, sameResults, moved]
    | some operations =>
      obtain ⟨rfl, closed, sealed⟩ := Batch.sealed_of_due due
      simp only [Batch.iterate, BatchCall.made_sealed batch operations closed sealed,
        run_eq_gather, Action.attempt_map, bind_assoc, pure_bind, harvests_of_due _ _ due]
      congr 1
      funext outcome
      cases outcome with
      | error error => exact inductionHypothesis batch
      | ok findings =>
        have rests : (batch.settled operations
            (.ok (MetadataMap.empty.gather findings))).draft = .resting none := by
          simp only [settled, draft, closed]
        have step := inductionHypothesis
          (batch.settled operations (.ok (MetadataMap.empty.gather findings)))
        rw [rests] at step
        simp only [bind_assoc, pure_bind, List.foldl_cons]
        exact step

/-- Harvesting never fails, since a batch that fails only gives no harvest; and every harvest is
complete, because a batch that succeeds has run all of its operations. -/
theorem harvests_complete (tables : List String) (calls : List BatchCall) (draft : Draft)
    (driver : Driver) (handle : Handle) :
    ∃ history, (harvests tables calls draft driver handle).result = .ok history ∧
      ∀ harvest ∈ history, harvest.Complete tables := by
  induction calls generalizing draft driver handle with
  | nil => exact ⟨[], rfl, fun _ impossible => absurd impossible List.not_mem_nil⟩
  | cons call rest inductionHypothesis =>
    cases due : draft.due? call with
    | none =>
      rw [harvests_of_none tables rest due]
      exact inductionHypothesis _ driver handle
    | some operations =>
      rw [harvests_of_due tables rest due]
      have attempted : ((Batch.survey (Batch.schedule tables operations)).attempt driver
          handle).result =
          .ok (Batch.survey (Batch.schedule tables operations) driver handle).result := rfl
      rw [Action.and_then_of_ok _ _ driver handle _ attempted]
      cases surveyed : (Batch.survey (Batch.schedule tables operations) driver handle).result with
      | error error => exact inductionHypothesis _ _ _
      | ok findings =>
        obtain ⟨later, harvested, complete⟩ := inductionHypothesis (.resting none)
          (driver.after ((Batch.survey (Batch.schedule tables operations)).attempt driver
            handle).calls.length)
          ((Batch.survey (Batch.schedule tables operations)).attempt driver handle).handle
        refine ⟨⟨operations, findings⟩ :: later, ?_, ?_⟩
        · dsimp only
          rw [Action.and_then_of_ok _ _ _ _ later harvested]
          rfl
        · intro harvest member
          rcases List.mem_cons.mp member with rfl | inLater
          · exact Batch.survey_complete _ surveyed
          · exact complete harvest inLater

/-- An iteration ends with its harvests laid over the results that it started from, after the
same calls to the driver. -/
theorem Batch.iterate_results (calls : List BatchCall) (batch : Batch) {driver : Driver}
    {handle : Handle} {history : List Harvest}
    (harvested : (harvests batch.tables calls batch.draft driver handle).result = .ok history) :
    ∃ final, (batch.iterate calls driver handle).result = .ok final ∧
      final.results = history.foldl Harvest.laidOver batch.results ∧
      (harvests batch.tables calls batch.draft driver handle).calls =
        (batch.iterate calls driver handle).calls := by
  have same := congrFun (congrFun (batch.iterate_eq_harvests calls) driver) handle
  rw [Action.and_then_pure, Action.and_then_pure, harvested] at same
  obtain ⟨sameResult, sameCalls, _⟩ := Step.mk.inj same
  cases answered : (batch.iterate calls driver handle).result with
  | error error =>
    rw [answered] at sameResult
    cases sameResult
  | ok final =>
    rw [answered] at sameResult
    exact ⟨final, rfl, Except.ok.inj sameResult, sameCalls.symm⟩

end SqlAccess
