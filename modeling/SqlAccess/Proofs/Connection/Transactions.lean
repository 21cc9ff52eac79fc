import SqlAccess.Proofs.Connection.StateMachine

/-!
# Transactions are bracketed

What a log says about transactions is read off its beginnings, commits and rollbacks alone. A
beginning is pending on a connection while it was granted and neither a commit nor a rollback
has followed it there, granted or not. Main statement: after every course of operations from a
new handle, on every driver, no connection has had a beginning while one was pending, an end
while none was, or a close while one was; a close that would come too early comes right after a
rollback; connections that no handle held have had none of these calls; and the handle is in a
transaction exactly when the last of these calls on its connection was a beginning that was
granted.
-/

namespace SqlAccess

namespace Log

/-- True for the end of a transaction on a connection, whether or not the driver reports a
failure. -/
def ends (number : Nat) (event : Event) : Bool :=
  event.call = .sent number .commit || event.call = .sent number .rollback

/-- How many granted beginnings on a connection no end on it has followed. -/
def pending (number : Nat) : List Event → Nat
  | [] => 0
  | event :: later =>
    (if event = ⟨.sent number .begin, true⟩ ∧ !later.any (ends number) then 1 else 0) +
      pending number later

/-- The last call on a connection that begins or ends a transaction. -/
def lastTransaction (number : Nat) (log : List Event) : Option Event :=
  (log.filter fun event => event.call.transacts? = some number).getLast?

/-- Beginnings and ends take turns on every connection, and an end comes before the close. -/
structure Bracketed (log : List Event) : Prop where
  /-- A beginning is asked for only while none is pending. -/
  begunOnce : ∀ earlier later number granted,
    log = earlier ++ ⟨.sent number .begin, granted⟩ :: later → pending number earlier = 0
  /-- An end is asked for only while exactly one beginning is pending. -/
  endedOnce : ∀ earlier later number command granted,
    log = earlier ++ ⟨.sent number command, granted⟩ :: later →
      command = .commit ∨ command = .rollback → pending number earlier = 1
  /-- A close is asked for only while no beginning is pending. -/
  closedEnded : ∀ earlier later number granted,
    log = earlier ++ ⟨.sent number .close, granted⟩ :: later → pending number earlier = 0

section Append

variable {log : List Event} {event : Event} {number : Nat}

/-- After an end nothing is pending. -/
theorem pending_append_of_ends (ended : ends number event = true) :
    pending number (log ++ [event]) = 0 := by
  induction log with
  | nil =>
    have notBegin : event ≠ ⟨.sent number .begin, true⟩ := by
      rintro rfl
      simp [ends] at ended
    simp [pending, notBegin]
  | cons first rest inductionHypothesis =>
    simp [pending, inductionHypothesis, ended]

/-- A granted beginning is one more that is pending. -/
theorem pending_append_begin :
    pending number (log ++ [⟨.sent number .begin, true⟩]) = pending number log + 1 := by
  induction log with
  | nil => simp [pending]
  | cons first rest inductionHypothesis =>
    simp only [List.cons_append, pending, inductionHypothesis, List.any_append]
    simp [ends, Nat.add_assoc]

/-- All other events leave what is pending. -/
theorem pending_append_other (goesOn : ends number event = false)
    (other : event ≠ ⟨.sent number .begin, true⟩) :
    pending number (log ++ [event]) = pending number log := by
  induction log with
  | nil => simp [pending, other]
  | cons first rest inductionHypothesis =>
    simp [pending, inductionHypothesis, goesOn]

/-- A call that begins or ends a transaction on the connection is the last one. -/
theorem last_transaction_append_of_transacts (about : event.call.transacts? = some number) :
    lastTransaction number (log ++ [event]) = some event := by
  simp [lastTransaction, List.filter_append, about]

/-- All other calls leave the last one. -/
theorem last_transaction_append_other (other : event.call.transacts? ≠ some number) :
    lastTransaction number (log ++ [event]) = lastTransaction number log := by
  simp [lastTransaction, List.filter_append, other]

/-- An end on a connection is a call that ends a transaction there. -/
theorem ends_eq_false (other : event.call.transacts? ≠ some number) :
    ends number event = false := by
  obtain ⟨call, granted⟩ := event
  have notCommit : call ≠ .sent number .commit := by
    rintro rfl
    exact other rfl
  have notRollback : call ≠ .sent number .rollback := by
    rintro rfl
    exact other rfl
  simp [ends, notCommit, notRollback]

end Append

/-- What a log says of a connection that stands so. -/
structure Tells (log : List Event) (number : Nat) (standing : Standing) : Prop where
  pendingBegun : pending number log = if standing = .begun then 1 else 0
  lastBegun : standing = .begun ↔
    lastTransaction number log = some ⟨.sent number .begin, true⟩

/-- An event that does not begin or end a transaction on a connection leaves what is told of it,
where the connection stands as before in this respect. -/
theorem Tells.other {log : List Event} {event : Event} {number : Nat} {before after : Standing}
    (tells : Tells log number before) (other : event.call.transacts? ≠ some number)
    (same : before = .begun ↔ after = .begun) : Tells (log ++ [event]) number after := by
  have notBegin : event ≠ ⟨.sent number .begin, true⟩ := by
    rintro rfl
    exact other rfl
  constructor
  · rw [pending_append_other (ends_eq_false other) notBegin, tells.pendingBegun]
    simp only [same]
  · rw [last_transaction_append_other other, ← tells.lastBegun, same]

/-- After an end the connection stands idle. -/
theorem tells_of_ends {log : List Event} {event : Event} {number : Nat}
    (ended : ends number event = true) : Tells (log ++ [event]) number .idle := by
  have about : event.call.transacts? = some number := by
    obtain ⟨call, granted⟩ := event
    simp only [ends, Bool.or_eq_true, decide_eq_true_eq] at ended
    rcases ended with rfl | rfl <;> rfl
  constructor
  · rw [pending_append_of_ends ended]
    rfl
  · rw [last_transaction_append_of_transacts about]
    have notBegin : event ≠ ⟨.sent number .begin, true⟩ := by
      rintro rfl
      simp [ends] at ended
    simp [notBegin]

/-- An event about the connection itself tells how it stands next. -/
theorem Tells.own {log : List Event} {event : Event} {before after : Standing}
    (tells : Tells log event.call.number before) (moved : before.Moves event after) :
    Tells (log ++ [event]) event.call.number after := by
  cases moved with
  | opened number connectionString => exact tells.other (by simp [Call.transacts?]) (by simp)
  | refused number connectionString => exact tells.other (by simp [Call.transacts?]) (by simp)
  | begins number =>
    have before : pending number log = 0 := tells.pendingBegun
    constructor
    · simp only [Call.number]
      rw [pending_append_begin, before]
      rfl
    · simp only [Call.number]
      rw [last_transaction_append_of_transacts rfl]
      exact iff_of_true trivial rfl
  | beginRefused number =>
    have before : pending number log = 0 := tells.pendingBegun
    constructor
    · simp only [Call.number]
      rw [pending_append_other (by simp [ends]) (by simp), before]
      rfl
    · simp only [Call.number]
      rw [last_transaction_append_of_transacts rfl]
      simp
  | commits number granted => exact tells_of_ends (by simp [ends, Call.number])
  | rollsBack number granted => exact tells_of_ends (by simp [ends, Call.number])
  | closes number granted => exact tells.other (by simp [Call.transacts?]) (by simp)
  | asks number command granted standing plain isOpen =>
    refine tells.other ?_ Iff.rfl
    rw [Call.transacts?_of_plain plain number]
    exact (Option.some_ne_none number).symm

/-- A booked log tells of each connection how it stands in the ledger. -/
theorem tells_of_booking {dialect : Dialect} {connectionString : String} {log : List Event}
    {ledger : Ledger}
    (booked : (Handle.closed dialect connectionString).ledger.bookAll? log = some ledger)
    (number : Nat) : Tells log number (ledger number) := by
  refine Ledger.holds_after_booking
    (motive := fun log ledger => ∀ number, Tells log number (ledger number))
    ?_ ?_ booked number
  · intro number
    have notBegun : (Handle.closed dialect connectionString).ledger number ≠ .begun := by
      by_cases zero : number ≤ 0 <;> simp [Handle.ledger, Handle.closed, zero]
    exact ⟨by simp [pending, notBegun], by simp [lastTransaction, notBegun]⟩
  · intro log ledger event standing tells moved number
    by_cases own : number = event.call.number
    · subst own
      rw [Function.update_self]
      exact (tells _).own moved
    · rw [Function.update_of_ne own]
      refine (tells number).other ?_ Iff.rfl
      intro about
      exact own (Call.number_of_transacts? about).symm

/-- Each event of a booked log moves its connection on from how the log before it tells that the
connection stands. -/
theorem tells_before {dialect : Dialect} {connectionString : String} {earlier later : List Event}
    {event : Event} {ledger : Ledger}
    (booked : (Handle.closed dialect connectionString).ledger.bookAll?
      (earlier ++ event :: later) = some ledger) :
    ∃ before after, Tells earlier event.call.number before ∧ before.Moves event after := by
  obtain ⟨middle, after, bookedEarlier, moved⟩ := Ledger.moves_of_book_all? booked
  exact ⟨_, after, tells_of_booking bookedEarlier _, moved⟩

/-- Whatever is booked on the ledger of a new handle is bracketed. -/
theorem bracketed_of_booking {dialect : Dialect} {connectionString : String} {log : List Event}
    {ledger : Ledger}
    (booked : (Handle.closed dialect connectionString).ledger.bookAll? log = some ledger) :
    Bracketed log := by
  refine ⟨?_, ?_, ?_⟩
  · rintro earlier later number granted rfl
    obtain ⟨before, after, told, moved⟩ := tells_before booked
    cases moved with
    | begins | beginRefused => exact told.pendingBegun
    | asks _ _ _ _ plain => exact absurd plain Bool.false_ne_true
  · rintro earlier later number command granted rfl ending
    obtain ⟨before, after, told, moved⟩ := tells_before booked
    cases moved with
    | commits | rollsBack => exact told.pendingBegun
    | begins | beginRefused | closes => simp at ending
    | asks _ _ _ _ plain =>
      rcases ending with rfl | rfl <;> exact absurd plain Bool.false_ne_true
  · rintro earlier later number granted rfl
    obtain ⟨before, after, told, moved⟩ := tells_before booked
    cases moved with
    | closes => exact told.pendingBegun
    | asks _ _ _ _ plain => exact absurd plain Bool.false_ne_true

end Log

namespace Handle

variable {handle : Handle} {number : Nat}

/-- A connection stands begun exactly when it is held with a marker. -/
theorem ledger_eq_begun :
    handle.ledger number = .begun ↔
      handle.connection = some number ∧ handle.transaction = true := by
  by_cases held : handle.connection = some number
  · rw [ledger_held held]
    cases handle.transaction <;> simp [held]
  · by_cases given : number ≤ handle.numbered <;> simp [ledger, held, given]

/-- Inside a transaction closing rolls back and closes. -/
theorem close_connection_begun (driver : Driver) (held : handle.connection = some number)
    (marked : handle.transaction = true) :
    (closeConnection driver handle).calls = [.sent number .rollback, .sent number .close] := by
  simp only [closeConnection, held, marked, if_true, List.map_cons, List.map_nil]

/-- Inside a transaction ending it is one call. -/
theorem end_transaction_begun (deed : String) (command : Command)
    (reply : Answers → Except Error Unit) {driver : Driver}
    (held : handle.connection = some number) (marked : handle.transaction = true) :
    (endTransaction deed command reply driver handle).calls = [.sent number command] := by
  simp only [endTransaction, held, marked]

/-- Opening begins and ends no transaction. -/
theorem open_connection_transacts (driver : Driver) (handle : Handle) :
    ∀ call ∈ (openConnection driver handle).calls, call.transacts? = none := by
  unfold openConnection
  split
  · exact fun _ member => absurd member List.not_mem_nil
  · split
    · exact fun _ member => absurd member List.not_mem_nil
    · simp only [dial]
      split <;> simp [Call.transacts?]

/-- Going to another database begins and ends no transaction: inside one it calls nothing. -/
theorem change_database_transacts (driver : Driver) (handle : Handle) (name : String) :
    ∀ call ∈ (changeDatabase name driver handle).calls, call.transacts? = none := by
  obtain ⟨_, refused⟩ | ⟨_, _, _, ⟨_, rewritten⟩ | ⟨_, _, reopened⟩⟩ :=
    change_database_cases driver handle name
  · rw [refused]
    exact fun _ member => absurd member List.not_mem_nil
  · rw [rewritten]
    exact fun _ member => absurd member List.not_mem_nil
  · rw [reopened]
    intro call member
    rcases List.mem_cons.mp member with rfl | reopening
    · rfl
    · exact open_connection_transacts _ _ call reopening

/-- Closing asks only the held connection. -/
theorem close_connection_own (driver : Driver) (handle : Handle) :
    ∀ call ∈ (closeConnection driver handle).calls, handle.connection = some call.number := by
  unfold closeConnection
  split
  · exact fun _ member => absurd member List.not_mem_nil
  · rename_i number held
    intro call member
    obtain ⟨command, _, rfl⟩ := List.mem_map.mp member
    exact held

/-- Beginning a transaction asks only the held connection. -/
theorem begin_transaction_own (driver : Driver) (handle : Handle) :
    ∀ call ∈ (beginTransaction driver handle).calls, handle.connection = some call.number := by
  unfold beginTransaction
  split
  · exact fun _ member => absurd member List.not_mem_nil
  · split
    · exact fun _ member => absurd member List.not_mem_nil
    · rename_i number held
      split <;> simp [Call.number, held]

/-- Ending a transaction asks only the held connection. -/
theorem end_transaction_own (deed : String) (command : Command)
    (reply : Answers → Except Error Unit) (driver : Driver) (handle : Handle) :
    ∀ call ∈ (endTransaction deed command reply driver handle).calls,
      handle.connection = some call.number := by
  unfold endTransaction
  split
  · rename_i number held marked
    simp [Call.number, held]
  · exact fun _ member => absurd member List.not_mem_nil

end Handle

namespace Operation

variable {driver : Driver} {handle : Handle} {number : Nat}

/-- An operation begins and ends transactions only on the connection that was held before it. -/
theorem transacts_held (operation : Operation) {call : Call}
    (member : call ∈ (operation.perform driver handle).calls)
    (about : call.transacts? = some number) : handle.connection = some number := by
  have same : call.number = number := Call.number_of_transacts? about
  have transacting : call.transacts? ≠ none := by
    rw [about]
    exact Option.some_ne_none number
  cases governs : operation.governs with
  | false =>
    have plain := (operation.perform_modest governs).transacts?_eq_none driver handle call member
    exact absurd plain transacting
  | true =>
    rw [← same]
    cases operation with
    | openConnection =>
      exact absurd (Handle.open_connection_transacts driver handle call member) transacting
    | closeConnection => exact Handle.close_connection_own driver handle call member
    | beginTransaction => exact Handle.begin_transaction_own driver handle call member
    | commit => exact Handle.end_transaction_own _ _ _ driver handle call member
    | rollback => exact Handle.end_transaction_own _ _ _ driver handle call member
    | changeDatabase name =>
      exact absurd (Handle.change_database_transacts driver handle name call member) transacting
    | _ => exact absurd governs Bool.false_ne_true

/-- An operation that closes a connection with an open transaction does nothing but roll the
transaction back and close the connection. -/
theorem rollback_before_close (sound : handle.Sound) (operation : Operation)
    (begun : handle.ledger number = .begun)
    (closes : Call.sent number .close ∈ (operation.perform driver handle).calls) :
    (operation.perform driver handle).calls = [.sent number .rollback, .sent number .close] := by
  obtain ⟨held, marked⟩ := Handle.ledger_eq_begun.mp begun
  cases governs : operation.governs with
  | false =>
    -- Modest work leaves what is held, so the connection would be both gone and begun afterwards.
    have passed := operation.perform_orderly driver handle sound
    obtain ⟨numbered, still⟩ := (operation.perform_modest governs).still driver handle
    have stands : (operation.perform driver handle).handle.ledger number = .begun := by
      rw [still]
      exact Handle.ledger_eq_begun.mpr ⟨held, marked⟩
    rw [← Driver.map_call_events driver (operation.perform driver handle).calls] at closes
    obtain ⟨⟨call, granted⟩, member, rfl⟩ := List.mem_map.mp closes
    have gone := Ledger.gone_of_closed passed.booked member
    rw [stands] at gone
    cases gone
  | true =>
    have notSilent : (operation.perform driver handle).calls ≠ [] := List.ne_nil_of_mem closes
    cases operation with
    | openConnection =>
      exact absurd (congrArg Step.calls (Handle.open_connection_held held)) notSilent
    | closeConnection => exact Handle.close_connection_begun driver held marked
    | beginTransaction =>
      exact absurd (congrArg Step.calls (Handle.begin_transaction_marked marked)) notSilent
    | commit =>
      have asked : (commit.perform driver handle).calls = [.sent number .commit] :=
        Handle.end_transaction_begun _ _ _ held marked
      simp [asked] at closes
    | rollback =>
      have asked : (rollback.perform driver handle).calls = [.sent number .rollback] :=
        Handle.end_transaction_begun _ _ _ held marked
      simp [asked] at closes
    | changeDatabase name =>
      exact absurd (congrArg Step.calls (Handle.change_database_marked marked)) notSilent
    | _ => exact absurd governs Bool.false_ne_true

end Operation

/-- A course begins and ends transactions only on connections that the handle holds between two
of its operations. -/
theorem course_transacts_held {operations : List Operation} {driver : Driver} {handle : Handle}
    {call : Call} {number : Nat} (member : call ∈ (course operations driver handle).calls)
    (about : call.transacts? = some number) :
    ∃ earlier later, operations = earlier ++ later ∧
      (course earlier driver handle).handle.connection = some number := by
  induction operations generalizing driver handle with
  | nil => exact absurd member List.not_mem_nil
  | cons operation rest inductionHypothesis =>
    rw [course_cons] at member
    rcases List.mem_append.mp member with now | next
    · exact ⟨[], operation :: rest, rfl, operation.transacts_held now about⟩
    · obtain ⟨earlier, later, rfl, held⟩ := inductionHypothesis next
      exact ⟨operation :: earlier, later, rfl, held⟩

/-- How the transactions of a course are bracketed, seen in its log and in the handle. -/
structure TransactionsBracketed (start : Handle) (driver : Driver) (operations : List Operation) :
    Prop where
  /-- On every connection beginnings and ends take turns. -/
  bracketed : Log.Bracketed (driver.events (course operations driver start).calls)
  /-- A connection is never closed with a pending beginning: an operation that would do so rolls
  back first, and the close is the next call. -/
  closedAfterRollback : ∀ earlier operation later number,
    operations = earlier ++ operation :: later →
      let before := course earlier driver start
      let step := operation.perform (driver.after before.calls.length) before.handle
      0 < Log.pending number (driver.events before.calls) → .sent number .close ∈ step.calls →
        step.calls = [.sent number .rollback, .sent number .close]
  /-- A connection that is opened for one operation only begins and ends no transaction. -/
  ephemeralFree : ∀ number,
    (∀ earlier later, operations = earlier ++ later →
      (course earlier driver start).handle.connection ≠ some number) →
    ∀ call ∈ (course operations driver start).calls, call.transacts? ≠ some number
  /-- The handle is in a transaction when the last beginning or end on its connection was a
  beginning that the driver granted, and only then. -/
  stateTold : (course operations driver start).handle.state = .inTransaction ↔
    ∃ number, (course operations driver start).handle.connection = some number ∧
      Log.lastTransaction number (driver.events (course operations driver start).calls) =
        some ⟨.sent number .begin, true⟩

/-- Transactions are bracketed whatever operations are carried out from a new handle, and
whatever the driver grants or refuses at each call. A course is any list of operations, so this
is how things stand after each operation of a longer one.

Proof: the course is booked in a ledger, and the entry of a number says whether a transaction is
open on it. The order of the calls is read off the booking, and so is what the last of them was; the
rollback before a close is what an operation does with a handle whose entry is begun; and calls
about a transaction are made on a connection that the handle holds, so never on an ephemeral one. -/
theorem course_transactions_bracketed (dialect : Dialect) (connectionString : String)
    (driver : Driver) (operations : List Operation) :
    TransactionsBracketed (Handle.closed dialect connectionString) driver operations := by
  have passed (operations : List Operation) :=
    course_orderly operations driver _ (Handle.closed_sound dialect connectionString)
  refine ⟨Log.bracketed_of_booking (passed operations).booked, ?_, ?_, ?_⟩
  · intro earlier operation later number split before step begun closes
    have told := (Log.tells_of_booking (passed earlier).booked number).pendingBegun
    have stands : before.handle.ledger number = .begun := by
      by_contra notBegun
      rw [if_neg notBegun] at told
      exact absurd told (Nat.ne_of_gt begun)
    exact operation.rollback_before_close (passed earlier).sound stands closes
  · intro number neverHeld call member about
    obtain ⟨earlier, later, split, held⟩ := course_transacts_held member about
    exact neverHeld earlier later split held
  · rw [Handle.state_eq_in_transaction]
    have told (number : Nat) :=
      (Log.tells_of_booking (passed operations).booked number).lastBegun
    constructor
    · rintro ⟨⟨number, held⟩, marked⟩
      exact ⟨number, held, (told number).mp (Handle.ledger_eq_begun.mpr ⟨held, marked⟩)⟩
    · rintro ⟨number, held, last⟩
      have stands := Handle.ledger_eq_begun.mp ((told number).mpr last)
      exact ⟨⟨number, held⟩, stands.2⟩

end SqlAccess
