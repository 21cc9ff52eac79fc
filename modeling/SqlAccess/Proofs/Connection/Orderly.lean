import SqlAccess.Proofs.Connection.Modest
import SqlAccess.Proofs.Connection.Passage

/-!
# Orderly actions

An action is orderly when from every sound handle, on every driver, its calls are a passage to
the handle that it leaves, which is sound again. Orderly actions compose. Main statements: modest
actions are orderly, so are the operations about the connection itself, and so is every course.
-/

namespace SqlAccess

namespace Action

variable {α β : Type}

/-- On every driver the action leads a sound handle to a sound one, by calls in order. -/
def Orderly (action : Action α) : Prop :=
  ∀ (driver : Driver) (handle : Handle), handle.Sound →
    Handle.Passes driver handle (action driver handle).calls (action driver handle).handle

/-- Giving a value back is orderly. -/
theorem orderly_pure (value : α) : Orderly (pure value : Action α) := fun _ _ sound => .stay sound

/-- Orderly actions compose. After an error the passage ends where the first action ended. -/
theorem orderly_bind {action : Action α} {next : α → Action β} (first : action.Orderly)
    (second : ∀ value, (next value).Orderly) : (action >>= next).Orderly := by
  intro driver handle sound
  have passed := first driver handle sound
  cases answered : (action driver handle).result with
  | error error =>
    rw [and_then_of_error action next driver handle error answered]
    exact passed
  | ok value =>
    rw [and_then_of_ok action next driver handle value answered]
    exact passed.trans (second value _ _ passed.sound)

/-- Plain work is orderly, on the held connection and on one of its own. -/
theorem run_orderly {α : Type} {work : Work α} (plain : work.Plain) :
    Orderly (Handle.run work) := by
  intro driver handle sound
  unfold Handle.run
  split
  · rename_i number held
    refine ⟨sound, ?_⟩
    apply Ledger.book_all?_plain _ _ _ _ _ (plain driver)
    rw [Handle.ledger_held held]
    cases handle.transaction with
    | false => exact Or.inl rfl
    | true => exact Or.inr rfl
  · cases reply : driver.now.openConnection handle.connectionString with
    | error error =>
      simpa [Handle.dial, reply, Except.map] using Handle.Passes.refused sound reply
    | ok value =>
      simpa [Handle.dial, reply, Except.map] using
        Handle.Passes.ephemeral sound reply (plain (driver.after 1))

/-- A connection that is only opened and closed again passes, also beside a held one. -/
theorem touch_orderly (connectionString : String) : Orderly (Handle.touch connectionString) := by
  intro driver handle sound
  cases reply : driver.now.openConnection connectionString with
  | error error =>
    simpa [Handle.touch, bind, andThen, Handle.dial, reply, Except.map] using
      Handle.Passes.refused sound reply
  | ok value =>
    have nothing : ∀ command ∈ ([] : List Command), command.isPlain = true := by simp
    have passed := Handle.Passes.ephemeral sound reply nothing
    simpa [Handle.touch, bind, andThen, Handle.dial, reply, Except.map] using passed

/-- Modest actions are orderly: each way in which they are made is. -/
theorem Modest.orderly {action : Action α} (modest : action.Modest) : action.Orderly := by
  induction modest with
  | answer result => exact fun _ _ sound => .stay sound
  | current => exact fun _ _ sound => .stay sound
  | run plain => exact run_orderly plain
  | touch connectionString => exact touch_orderly connectionString
  | attempt modest inductionHypothesis => exact inductionHypothesis
  | bind first second firstOrderly secondOrderly => exact orderly_bind firstOrderly secondOrderly

end Action

namespace Handle

open SqlAccess.Action

/-- Opening is orderly: it takes a new connection, or passes over a number, or calls nothing. -/
theorem open_connection_orderly : Orderly openConnection := by
  intro driver handle sound
  unfold openConnection
  split
  · exact .stay sound
  · rename_i free
    split
    · exact .stay sound
    · cases reply : driver.now.openConnection handle.connectionString with
      | error error =>
        simpa [dial, reply, Except.map] using Passes.refused sound reply
      | ok value =>
        have unmarked : handle.transaction = false := sound.unmarked free
        simp only [dial, reply, Except.map]
        refine ⟨⟨by simp, by simp⟩, ?_⟩
        simp only [Driver.events, Ledger.bookAll?, Ledger.book?, Call.number, Standing.next?,
          sound.next_unasked, Answers.grants, reply, Except.isOk, Except.toBool, if_true,
          Option.map_some, Option.bind_some, ledger_taken sound free]

/-- Closing is orderly: an open transaction is rolled back before the connection is gone. -/
theorem close_connection_orderly : Orderly closeConnection := by
  intro driver handle sound
  unfold closeConnection
  split
  · rename_i free
    have same : { handle with transaction := false } = handle := by
      rw [← sound.unmarked free]
    rw [same]
    exact .stay sound
  · rename_i number held
    refine ⟨⟨by simp, by simp⟩, ?_⟩
    have standing : handle.ledger number = _ := ledger_held held
    cases marked : handle.transaction with
    | false =>
      simp only [marked, Bool.false_eq_true, if_false] at standing
      simp [Driver.events, Ledger.bookAll?, Ledger.book?, Call.number, Standing.next?, standing,
        ledger_released sound held]
    | true =>
      simp only [marked, if_true] at standing
      simp [Driver.events, Ledger.bookAll?, Ledger.book?, Call.number, Standing.next?, standing,
        Function.update_idem, ledger_released sound held]

/-- Beginning a transaction is orderly: it is asked for on an open connection without one. -/
theorem begin_transaction_orderly : Orderly beginTransaction := by
  intro driver handle sound
  unfold beginTransaction
  split
  · exact .stay sound
  · rename_i unmarked
    split
    · exact .stay sound
    · rename_i number held
      have standing : handle.ledger number = .idle := by
        rw [ledger_held held]
        exact if_neg unmarked
      cases reply : driver.now.begin with
      | error error =>
        refine ⟨sound, ?_⟩
        have stays : Function.update handle.ledger number .idle = handle.ledger := by
          rw [← standing, Function.update_eq_self]
        simp [Driver.events, Ledger.bookAll?, Ledger.book?, Call.number, Standing.next?, standing,
          Answers.grants, reply, Except.isOk, Except.toBool, stays]
      | ok value =>
        refine ⟨⟨fun _ => by simp [held], sound.numbered⟩, ?_⟩
        have marks := ledger_marked held true
        simp only [if_true] at marks
        simp [Driver.events, Ledger.bookAll?, Ledger.book?, Call.number, Standing.next?, standing,
          Answers.grants, reply, Except.isOk, Except.toBool, marks]

/-- Ending a transaction is orderly: it is asked for while one is open. -/
theorem end_transaction_orderly (deed : String) {command : Command}
    (reply : Answers → Except Error Unit) (ends : command = .commit ∨ command = .rollback) :
    Orderly (endTransaction deed command reply) := by
  intro driver handle sound
  unfold endTransaction
  split
  · rename_i number held marked
    refine ⟨⟨by simp, sound.numbered⟩, ?_⟩
    have standing : handle.ledger number = .begun := by
      rw [ledger_held held]
      exact if_pos marked
    have marks := ledger_marked held false
    simp only [Bool.false_eq_true, if_false] at marks
    rcases ends with rfl | rfl <;>
      simp [Driver.events, Ledger.bookAll?, Ledger.book?, Call.number, Standing.next?, standing,
        marks]
  · exact .stay sound

/-- Another connection string changes no connection. -/
theorem redirect_orderly (connectionString : String) : Orderly (redirect connectionString) := by
  intro driver handle sound
  exact ⟨⟨sound.marked, sound.numbered⟩, rfl⟩

/-- Going to another database is orderly: the held connection is gone before the next one is
asked for. -/
theorem change_database_orderly (name : String) : Orderly (changeDatabase name) := by
  apply orderly_bind Modest.current.orderly
  intro handle
  split
  · exact (Modest.answer _).orderly
  · apply orderly_bind (Modest.answer _).orderly
    intro target
    apply orderly_bind close_connection_orderly
    intro _
    apply orderly_bind (redirect_orderly target)
    intro _
    split
    · exact open_connection_orderly
    · exact orderly_pure ()

end Handle

/-- Every operation is orderly, whatever its arguments are. -/
theorem Operation.perform_orderly (operation : Operation) : operation.perform.Orderly := by
  cases governs : operation.governs with
  | false => exact (operation.perform_modest governs).orderly
  | true =>
    cases operation with
    | openConnection => exact Handle.open_connection_orderly
    | closeConnection => exact Handle.close_connection_orderly
    | beginTransaction => exact Handle.begin_transaction_orderly
    | commit => exact Handle.end_transaction_orderly _ _ (Or.inl rfl)
    | rollback => exact Handle.end_transaction_orderly _ _ (Or.inr rfl)
    | changeDatabase name => exact Handle.change_database_orderly name
    | _ => exact absurd governs Bool.false_ne_true

/-- Every course of operations is orderly. -/
theorem course_orderly (operations : List Operation) : Action.Orderly (course operations) := by
  induction operations with
  | nil => exact Action.orderly_pure ()
  | cons operation rest inductionHypothesis =>
    have attempted : Action.Orderly operation.perform.attempt := operation.perform_orderly
    apply Action.orderly_bind attempted
    intro _
    exact inductionHypothesis

end SqlAccess
