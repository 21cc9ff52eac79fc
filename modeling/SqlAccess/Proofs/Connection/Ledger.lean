import Mathlib.Data.List.Induction
import Mathlib.Logic.Function.Basic
import SqlAccess.Proofs.Connection.Course
import SqlAccess.Proofs.Connection.PlainWork

/-!
# The ledger of connections

A ledger says how each connection stands: not asked for, open, open with a transaction, or gone.
A log is booked event by event. An event that a connection may not receive as it stands has no
booking: a number that is asked for twice, a call before the opening or after the close, a
second beginning, an end without a beginning, a close while a transaction is open.

The handle itself fixes a ledger: its connection is open, every other number that was given is
gone, and no other has been asked for. An action is orderly when its log can be booked on the
ledger of the handle before it and gives that of the handle after it. Orderly actions compose,
so a whole course is orderly because each of its operations is.
-/

namespace SqlAccess

/-- How a connection stands. -/
inductive Standing where
  | unasked
  | idle
  /-- A transaction has begun and has not ended. -/
  | begun
  /-- It was refused, or it was closed. -/
  | gone
deriving DecidableEq, Repr

/-- How a connection stands after an event about it, if it may receive that event. -/
def Standing.next? (standing : Standing) (event : Event) : Option Standing :=
  match event.call, standing with
  | .opening _ _, .unasked => some (if event.granted then .idle else .gone)
  | .sent _ .begin, .idle => some (if event.granted then .begun else .idle)
  | .sent _ .commit, .begun | .sent _ .rollback, .begun => some .idle
  | .sent _ .close, .idle => some .gone
  | .sent _ command, .idle => if command.isPlain then some .idle else none
  | .sent _ command, .begun => if command.isPlain then some .begun else none
  | _, _ => none

/-- All that an event can do to the connection it is about. -/
inductive Standing.Moves : Standing → Event → Standing → Prop
  | opened (number : Nat) (connectionString : String) :
      Moves .unasked ⟨.opening number connectionString, true⟩ .idle
  | refused (number : Nat) (connectionString : String) :
      Moves .unasked ⟨.opening number connectionString, false⟩ .gone
  | begins (number : Nat) : Moves .idle ⟨.sent number .begin, true⟩ .begun
  | beginRefused (number : Nat) : Moves .idle ⟨.sent number .begin, false⟩ .idle
  | commits (number : Nat) (granted : Bool) : Moves .begun ⟨.sent number .commit, granted⟩ .idle
  | rollsBack (number : Nat) (granted : Bool) :
      Moves .begun ⟨.sent number .rollback, granted⟩ .idle
  | closes (number : Nat) (granted : Bool) : Moves .idle ⟨.sent number .close, granted⟩ .gone
  | asks (number : Nat) (command : Command) (granted : Bool) (standing : Standing)
      (plain : command.isPlain = true) (isOpen : standing = .idle ∨ standing = .begun) :
      Moves standing ⟨.sent number command, granted⟩ standing

/-- What has a booking is one of these moves. -/
theorem Standing.moves_of_next? {before after : Standing} {event : Event}
    (allowed : before.next? event = some after) : before.Moves event after := by
  obtain ⟨call, granted⟩ := event
  cases call with
  | opening number connectionString =>
    cases before <;> cases granted <;> cases allowed
    · exact .refused number connectionString
    · exact .opened number connectionString
  | sent number command =>
    cases command <;> cases before <;> simp [next?, Command.isPlain] at allowed <;> subst allowed
    case begin.idle =>
      cases granted with
      | false => exact .beginRefused number
      | true => exact .begins number
    case commit.begun => exact .commits number granted
    case rollback.begun => exact .rollsBack number granted
    case close.idle => exact .closes number granted
    all_goals exact .asks number _ granted _ rfl (by simp)

/-- How each connection stands. -/
abbrev Ledger := Nat → Standing

namespace Ledger

/-- The ledger after an event, if that has a booking. -/
def book? (ledger : Ledger) (event : Event) : Option Ledger :=
  ((ledger event.call.number).next? event).map (Function.update ledger event.call.number)

/-- The ledger after a log, if every event of it has a booking. -/
def bookAll? (ledger : Ledger) : List Event → Option Ledger
  | [] => some ledger
  | event :: rest => (ledger.book? event).bind fun after => after.bookAll? rest

/-- A log is booked part by part. -/
theorem book_all?_append (ledger : Ledger) (first second : List Event) :
    ledger.bookAll? (first ++ second) =
      (ledger.bookAll? first).bind fun middle => middle.bookAll? second := by
  induction first generalizing ledger with
  | nil => rfl
  | cons event rest inductionHypothesis =>
    simp only [List.cons_append, bookAll?, inductionHypothesis, Option.bind_assoc]

/-- A booking changes the standing of one connection, by one event. -/
theorem book?_eq_some {ledger after : Ledger} {event : Event}
    (booked : ledger.book? event = some after) :
    ∃ standing, (ledger event.call.number).Moves event standing ∧
      after = Function.update ledger event.call.number standing := by
  obtain ⟨standing, allowed, same⟩ := Option.map_eq_some_iff.mp booked
  exact ⟨standing, Standing.moves_of_next? allowed, same.symm⟩

/-- Each event of a log that can be booked moves its connection on from where the events before
it have led. -/
theorem moves_of_book_all? {ledger final : Ledger} {earlier later : List Event} {event : Event}
    (booked : ledger.bookAll? (earlier ++ event :: later) = some final) :
    ∃ middle standing, ledger.bookAll? earlier = some middle ∧
      (middle event.call.number).Moves event standing := by
  rw [book_all?_append] at booked
  obtain ⟨middle, before, rest⟩ := Option.bind_eq_some_iff.mp booked
  obtain ⟨after, first, _⟩ := Option.bind_eq_some_iff.mp rest
  obtain ⟨standing, moved, _⟩ := book?_eq_some first
  exact ⟨middle, standing, before, moved⟩

/-- What holds at first and is kept by each booking holds after every log that can be booked.

The induction is on the log from its end, so that the step is about the last event and knows
all that went before. -/
theorem holds_after_booking {start : Ledger} {motive : List Event → Ledger → Prop}
    (atStart : motive [] start)
    (step : ∀ log ledger event standing, motive log ledger →
      (ledger event.call.number).Moves event standing →
      motive (log ++ [event]) (Function.update ledger event.call.number standing))
    {log : List Event} {final : Ledger} (booked : start.bookAll? log = some final) :
    motive log final := by
  induction log using List.reverseRecOn generalizing final with
  | nil =>
    have same : start = final := Option.some.inj booked
    exact same ▸ atStart
  | append_singleton log event inductionHypothesis =>
    rw [book_all?_append] at booked
    obtain ⟨middle, earlier, last⟩ := Option.bind_eq_some_iff.mp booked
    simp only [bookAll?, Option.bind_fun_some] at last
    obtain ⟨standing, moved, rfl⟩ := book?_eq_some last
    exact step log middle event standing (inductionHypothesis earlier) moved

/-- A connection that was asked to close is gone, and stays so. -/
theorem gone_of_closed {ledger final : Ledger} {log : List Event}
    (booked : ledger.bookAll? log = some final) {number : Nat} {granted : Bool}
    (closes : ⟨.sent number .close, granted⟩ ∈ log) : final number = .gone := by
  refine holds_after_booking
    (motive := fun log ledger => ∀ number granted,
      ⟨.sent number .close, granted⟩ ∈ log → ledger number = .gone)
    ?_ ?_ booked number granted closes
  · exact fun _ _ impossible => absurd impossible List.not_mem_nil
  · intro log ledger event standing earlier moved number granted member
    by_cases own : number = event.call.number
    · subst own
      rw [Function.update_self]
      rcases List.mem_append.mp member with before | last
      · rw [earlier _ granted before] at moved
        cases moved with
        | asks number command granted standing plain isOpen => simp at isOpen
      · generalize ledger event.call.number = prior at moved
        rw [← List.mem_singleton.mp last] at moved
        cases moved with
        | closes => rfl
        | asks number command granted standing plain isOpen =>
          exact absurd plain Bool.false_ne_true
    · rw [Function.update_of_ne own]
      rcases List.mem_append.mp member with before | last
      · exact earlier number granted before
      · have same := congrArg (fun asked : Event => asked.call.number) (List.mem_singleton.mp last)
        exact absurd same own

/-- A connection that is open takes plain commands and stands as before, whatever is granted. -/
theorem book_all?_plain (ledger : Ledger) (driver : Driver) (number : Nat)
    (commands : List Command) (isOpen : ledger number = .idle ∨ ledger number = .begun)
    (plain : ∀ command ∈ commands, command.isPlain = true) :
    ledger.bookAll? (driver.events (commands.map (.sent number))) = some ledger := by
  induction commands generalizing driver with
  | nil => rfl
  | cons command rest inductionHypothesis =>
    have commandPlain : command.isPlain = true := plain command List.mem_cons_self
    have allowed (granted : Bool) :
        (ledger number).next? ⟨.sent number command, granted⟩ = some (ledger number) := by
      rcases isOpen with idle | begun
      · rw [idle]
        cases command <;> simp_all [Standing.next?, Command.isPlain]
      · rw [begun]
        cases command <;> simp_all [Standing.next?, Command.isPlain]
    simp only [List.map_cons, Driver.events, bookAll?, book?, Call.number, allowed,
      Option.map_some, Function.update_eq_self, Option.bind_some]
    exact inductionHypothesis _ fun later member =>
      plain later (List.mem_cons_of_mem command member)

end Ledger

end SqlAccess
