import SqlAccess.Proofs.Connection.Orderly

/-!
# Connections are accounted for

What a log says about connections is read off its openings and closes alone, without the
handle. Main statement: after every course of operations from a new handle, on every driver, the
connections that were opened and not closed are exactly the one that the handle holds; no
connection is closed twice; and none is called before its opening was granted or after its close.
-/

namespace SqlAccess

/-- The connection that an event opens. -/
def Event.opened? (event : Event) : Option Nat :=
  match event.call with
  | .opening number _ => if event.granted then some number else none
  | .sent _ _ => none

/-- The connection that an event closes, whether or not the driver reports a failure. -/
def Event.closed? (event : Event) : Option Nat :=
  match event.call with
  | .sent number .close => some number
  | _ => none

namespace Log

/-- The connections whose opening was granted. -/
def opened (log : List Event) : List Nat := log.filterMap Event.opened?

/-- The connections that were asked to close, as often as they were. -/
def closed (log : List Event) : List Nat := log.filterMap Event.closed?

/-- Every connection of a log is accounted for, and a handle holds what is left. -/
structure Accounted (log : List Event) (held : Option Nat) : Prop where
  /-- What was opened and not closed is held, and nothing else is. -/
  live : ∀ number, (number ∈ opened log ∧ number ∉ closed log) ↔ held = some number
  /-- No connection is closed twice. -/
  closedOnce : (closed log).Nodup
  /-- A number is asked for before all other calls on it, so it is never given again. -/
  openedFirst : ∀ earlier later number connectionString granted,
    log = earlier ++ ⟨.opening number connectionString, granted⟩ :: later →
      ∀ event ∈ earlier, event.call.number ≠ number
  /-- Every other call is made while the connection is open. -/
  usedOpen : ∀ earlier later number command granted,
    log = earlier ++ ⟨.sent number command, granted⟩ :: later →
      number ∈ opened earlier ∧ number ∉ closed earlier

section Append

variable {log : List Event} {event : Event} {number : Nat}

/-- The last event adds the connection that it opens. -/
theorem mem_opened_append :
    number ∈ opened (log ++ [event]) ↔
      number ∈ opened log ∨ event.opened? = some number := by
  simp only [opened, List.filterMap_append, List.mem_append, List.mem_filterMap,
    List.mem_singleton, exists_eq_left]

/-- The last event adds the connection that it closes. -/
theorem mem_closed_append :
    number ∈ closed (log ++ [event]) ↔
      number ∈ closed log ∨ event.closed? = some number := by
  simp only [closed, List.filterMap_append, List.mem_append, List.mem_filterMap,
    List.mem_singleton, exists_eq_left]

/-- An event opens only the connection it is about. -/
theorem number_of_opened? (opens : event.opened? = some number) :
    event.call.number = number := by
  obtain ⟨call, granted⟩ := event
  cases call with
  | opening asked connectionString =>
    cases granted with
    | false => simp [Event.opened?] at opens
    | true => simpa [Event.opened?, Call.number] using opens
  | sent asked command => simp [Event.opened?] at opens

/-- An event closes only the connection it is about. -/
theorem number_of_closed? (closes : event.closed? = some number) :
    event.call.number = number := by
  obtain ⟨call, granted⟩ := event
  cases call with
  | opening asked connectionString => simp [Event.closed?] at closes
  | sent asked command => cases command <;> simp_all [Event.closed?, Call.number]

/-- An event that closes nothing leaves the list of closed connections. -/
theorem closed_append_of_none (closesNothing : event.closed? = none) :
    closed (log ++ [event]) = closed log := by
  simp [closed, List.filterMap_append, closesNothing]

/-- A plain command closes nothing. -/
theorem closed?_of_plain {command : Command} (plain : command.isPlain = true) (granted : Bool) :
    (⟨.sent number command, granted⟩ : Event).closed? = none := by
  cases command <;> first | rfl | exact absurd plain Bool.false_ne_true

/-- A connection that no event is about was not opened. -/
theorem not_mem_opened (unnamed : ∀ event ∈ log, event.call.number ≠ number) :
    number ∉ opened log := by
  intro member
  obtain ⟨event, inLog, opens⟩ := List.mem_filterMap.mp member
  exact unnamed event inLog (number_of_opened? opens)

/-- A connection that no event is about was not closed. -/
theorem not_mem_closed (unnamed : ∀ event ∈ log, event.call.number ≠ number) :
    number ∉ closed log := by
  intro member
  obtain ⟨event, inLog, closes⟩ := List.mem_filterMap.mp member
  exact unnamed event inLog (number_of_closed? closes)

end Append

/-- What a log says of a connection that stands so. -/
def Records (log : List Event) (number : Nat) : Standing → Prop
  | .unasked => ∀ event ∈ log, event.call.number ≠ number
  | .idle | .begun => number ∈ opened log ∧ number ∉ closed log
  | .gone => number ∈ opened log → number ∈ closed log

/-- An event about another connection leaves what is recorded. -/
theorem Records.other {log : List Event} {event : Event} {number : Nat} {standing : Standing}
    (records : Records log number standing) (other : event.call.number ≠ number) :
    Records (log ++ [event]) number standing := by
  have notOpened : event.opened? ≠ some number := fun opens => other (number_of_opened? opens)
  have notClosed : event.closed? ≠ some number := fun closes => other (number_of_closed? closes)
  cases standing with
  | unasked =>
    intro earlier member
    rcases List.mem_append.mp member with before | last
    · exact records earlier before
    · rw [List.mem_singleton.mp last]
      exact other
  | idle | begun | gone =>
    simpa only [Records, mem_opened_append, mem_closed_append, notOpened, notClosed, or_false]
      using records

/-- An event about the connection itself records how it stands next. -/
theorem Records.own {log : List Event} {event : Event} {before after : Standing}
    (records : Records log event.call.number before) (moved : before.Moves event after) :
    Records (log ++ [event]) event.call.number after := by
  cases moved with
  | opened number connectionString =>
    refine ⟨mem_opened_append.mpr (Or.inr rfl), ?_⟩
    intro member
    rcases mem_closed_append.mp member with earlier | now
    · exact not_mem_closed records earlier
    · simp [Event.closed?] at now
  | refused number connectionString =>
    intro member
    rcases mem_opened_append.mp member with earlier | now
    · exact absurd earlier (not_mem_opened records)
    · simp [Event.opened?] at now
  | begins | beginRefused | commits | rollsBack =>
    simpa [Records, mem_opened_append, mem_closed_append, Event.opened?, Event.closed?] using
      records
  | closes number granted =>
    intro _
    exact mem_closed_append.mpr (Or.inr rfl)
  | asks number command granted standing plain isOpen =>
    have notClosed : (⟨.sent number command, granted⟩ : Event).closed? = none :=
      closed?_of_plain plain granted
    rcases isOpen with rfl | rfl <;>
      simpa [Records, mem_opened_append, mem_closed_append, Event.opened?, notClosed] using
        records

/-- A connection that may be closed has not been closed before. -/
theorem Records.closed_nodup {log : List Event} {event : Event} {before after : Standing}
    (records : Records log event.call.number before) (once : (closed log).Nodup)
    (moved : before.Moves event after) : (closed (log ++ [event])).Nodup := by
  cases moved with
  | closes number granted =>
    have appended :
        closed (log ++ [⟨.sent number .close, granted⟩]) = closed log ++ [number] := by
      simp [closed, List.filterMap_append, Event.closed?]
    rw [appended]
    refine List.nodup_append.mpr ⟨once, by simp, ?_⟩
    intro earlier member last closedNow same
    rw [same, List.mem_singleton.mp closedNow] at member
    exact records.2 member
  | opened | refused | begins | beginRefused | commits | rollsBack =>
    rw [closed_append_of_none rfl]
    exact once
  | asks number command granted standing plain isOpen =>
    rw [closed_append_of_none (closed?_of_plain plain granted)]
    exact once

/-- A booked log closes no connection twice, and records each one as the ledger has it. -/
theorem records_of_booking {dialect : Dialect} {connectionString : String} {log : List Event}
    {ledger : Ledger}
    (booked : (Handle.closed dialect connectionString).ledger.bookAll? log = some ledger) :
    (closed log).Nodup ∧ ∀ number, Records log number (ledger number) := by
  refine Ledger.holds_after_booking
    (motive :=
      fun log ledger => (closed log).Nodup ∧ ∀ number, Records log number (ledger number))
    ⟨List.nodup_nil, ?_⟩ ?_ booked
  · intro number
    by_cases zero : number ≤ 0 <;> simp [Handle.ledger, Handle.closed, Records, opened, zero]
  · rintro log ledger event standing ⟨once, records⟩ moved
    refine ⟨(records event.call.number).closed_nodup once moved, ?_⟩
    intro number
    by_cases own : number = event.call.number
    · subst own
      rw [Function.update_self]
      exact (records _).own moved
    · rw [Function.update_of_ne own]
      exact (records number).other (Ne.symm own)

/-- Each event of a booked log moves its connection on from how the log before it records that
the connection stands. -/
theorem records_before {dialect : Dialect} {connectionString : String}
    {earlier later : List Event} {event : Event} {ledger : Ledger}
    (booked : (Handle.closed dialect connectionString).ledger.bookAll?
      (earlier ++ event :: later) = some ledger) :
    ∃ before after, Records earlier event.call.number before ∧ before.Moves event after := by
  obtain ⟨middle, after, bookedEarlier, moved⟩ := Ledger.moves_of_book_all? booked
  exact ⟨_, after, (records_of_booking bookedEarlier).2 _, moved⟩

/-- Whatever is booked on the ledger of a new handle, up to the ledger of another one, accounts
for what that one holds. -/
theorem accounted_of_booking {dialect : Dialect} {connectionString : String} {log : List Event}
    {handle : Handle}
    (booked : (Handle.closed dialect connectionString).ledger.bookAll? log =
      some handle.ledger) : Accounted log handle.connection := by
  obtain ⟨once, records⟩ := records_of_booking booked
  refine ⟨?_, once, ?_, ?_⟩
  · intro number
    have record := records number
    by_cases held : handle.connection = some number
    · rw [Handle.ledger_held held] at record
      cases marked : handle.transaction <;> simp [marked, Records] at record <;> simp [held, record]
    · have free : handle.ledger number = .gone ∨ handle.ledger number = .unasked := by
        by_cases given : number ≤ handle.numbered <;> simp [Handle.ledger, held, given]
      simp only [held, iff_false, not_and, not_not]
      intro member
      rcases free with gone | unasked
      · rw [gone] at record
        exact record member
      · rw [unasked] at record
        exact absurd member (not_mem_opened record)
  · rintro earlier later number connectionString granted rfl
    obtain ⟨before, after, record, moved⟩ := records_before booked
    cases moved <;> exact record
  · rintro earlier later number command granted rfl
    obtain ⟨before, after, record, moved⟩ := records_before booked
    cases moved with
    | begins | beginRefused | commits | rollsBack | closes => exact record
    | asks number command granted standing plain isOpen =>
      rcases isOpen with rfl | rfl <;> exact record

end Log

/-- No connection is leaked, and none is used before it is open or after it is closed: whatever
operations are carried out from a new handle, and whatever the driver grants or refuses at each
call, the connections that were opened and not closed are those that the handle holds. A course
is any list of operations, so this is how things stand after each operation of a longer one.

Proof: the calls of a course are booked in a ledger with one entry for each number, and every
operation extends the booking and keeps it in step with the handle. A ledger that books a log tells
of each number whether it was opened and closed, and that is what is to be accounted for. -/
theorem course_accounted (dialect : Dialect) (connectionString : String) (driver : Driver)
    (operations : List Operation) :
    let done := course operations driver (Handle.closed dialect connectionString)
    Log.Accounted (driver.events done.calls) done.handle.connection := by
  intro done
  have passed := course_orderly operations driver _
    (Handle.closed_sound dialect connectionString)
  exact Log.accounted_of_booking passed.booked

end SqlAccess
