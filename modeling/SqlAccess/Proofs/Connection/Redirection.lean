import SqlAccess.Proofs.Connection.Accounting
import SqlAccess.Proofs.Connection.Dialing

/-!
# Going to another database

To go to another database is one operation that judges, writes, closes and opens in turn. Main
statement: on every handle that can be reached, and on every driver, it is all or nothing up to the
last of these. In a transaction, and where no string can be written for the name, nothing is called
and nothing changes. Otherwise the handle has the written string. A closed handle stays closed, and
nothing is called; one that holds a connection lets go of it and asks for a new one, and only
whether it holds that depends on the driver.

The written string lasts until another one is written: every connection that the handle asks for by
itself until then is one of that string.
-/

namespace SqlAccess

namespace Operation

/-- True where one of several operations writes a string, each on the handle that it meets. -/
def anyWrites : List Operation → Driver → Handle → Bool
  | [], _, _ => false
  | operation :: rest, driver, handle =>
    let step := operation.perform driver handle
    (operation.target? handle).isSome ||
      anyWrites rest (driver.after step.calls.length) step.handle

/-- Operations that write no string leave the one there is. -/
theorem course_unwritten {operations : List Operation} {driver : Driver} {handle : Handle}
    (unwritten : anyWrites operations driver handle = false) :
    (course operations driver handle).handle.connectionString = handle.connectionString := by
  induction operations generalizing driver handle with
  | nil => rfl
  | cons operation rest inductionHypothesis =>
    obtain ⟨first, later⟩ := Bool.or_eq_false_iff.mp unwritten
    have nothing : operation.target? handle = none := by simpa using first
    have kept := (operation.perform_string driver handle).1
    rw [nothing] at kept
    rw [course_cons]
    exact (inductionHypothesis later).trans kept

end Operation

/-- A handle asks for connections of its string, and of no other. -/
structure Handle.Targets (handle : Handle) (target : String) : Prop where
  string : handle.connectionString = target
  /-- The string shows something, so to open the handle does not refuse it. -/
  visible : Text.isBlankText target = false
  /-- On a closed handle an operation that needs a connection asks for one of the string, and for
  no other. -/
  dials : handle.state = .closed → ∀ (operation : Operation) (driver : Driver),
    operation.dials target = true →
      (operation.perform driver handle).dialed = [target]
  /-- No operation that is given no other database asks for a connection of another string. -/
  only : ∀ (operation : Operation) (driver : Driver), operation.namesDatabase = false →
    ∀ asked ∈ (operation.perform driver handle).dialed, asked = target

/-- All that going to another database does on a handle to which some calls have led. -/
structure Handle.Redirects (handle : Handle) (earlier : List Call) (driver : Driver)
    (name : String) : Prop where
  /-- In a transaction nothing is called, and nothing changes. -/
  marked : handle.state = .inTransaction →
    changeDatabase name driver handle =
      ⟨.error (.transactionState "cannot change database while a transaction is open"), [],
        handle⟩
  /-- Nor where the name or the string is rejected. -/
  rejected : handle.state ≠ .inTransaction → ∀ error,
    ConnectionString.withDatabase handle.dialect handle.connectionString name = .error error →
      changeDatabase name driver handle = ⟨.error error, [], handle⟩
  /-- A closed handle takes the written string, and that is all. -/
  closed : handle.state = .closed → ∀ target,
    ConnectionString.withDatabase handle.dialect handle.connectionString name = .ok target →
      changeDatabase name driver handle =
        ⟨.ok (), [], { handle with connectionString := target }⟩
  /-- A held connection is closed, and then one of the written string is asked for, with a number
  that no call has had. The handle has the written string in any case; it holds the new connection
  where the driver grants it, and else none. -/
  reopened : handle.state = .opened → ∀ number, handle.connection = some number → ∀ target,
    ConnectionString.withDatabase handle.dialect handle.connectionString name = .ok target →
      let fresh := handle.numbered + 1
      let reply := (driver.after 1).now.openConnection target
      let step := changeDatabase name driver handle
      number ≠ fresh ∧ (∀ call ∈ earlier, call.number ≠ fresh) ∧
        step = ⟨reply, [.sent number .close, .opening fresh target],
          { handle with
            connectionString := target
            connection := if reply.isOk then some fresh else none
            numbered := fresh }⟩ ∧
        step.handle.state = if reply.isOk then .opened else .closed
  /-- Until another string is written, the handle asks for connections of the written one. -/
  lasting : handle.state ≠ .inTransaction → ∀ target,
    ConnectionString.withDatabase handle.dialect handle.connectionString name = .ok target →
      ∀ (later : List Operation) (afterwards : Driver),
        let moved := (changeDatabase name driver handle).handle
        Operation.anyWrites later afterwards moved = false →
          (course later afterwards moved).handle.Targets target

namespace Handle

variable {handle : Handle} {driver : Driver} {name target : String}

/-- A handle whose string shows something asks for connections of that. -/
theorem targets_of_visible (string : handle.connectionString = target)
    (visible : Text.isBlankText target = false) : handle.Targets target := by
  subst string
  refine ⟨rfl, visible, fun closed operation driver dials => ?_,
    fun operation driver here asked member => ?_⟩
  · have here : operation.namesDatabase = false := by
      cases operation <;> first | rfl | cases dials
    rw [operation.perform_dialed here, state_eq_closed.mp closed, dials]
    rfl
  · rw [operation.perform_dialed here] at member
    split at member
    · exact List.mem_singleton.mp member
    · cases member

/-- On a sound handle whose next number no call has had, all of it holds. -/
theorem redirects_of_sound {earlier : List Call} (sound : handle.Sound)
    (unnamed : ∀ call ∈ earlier, call.number ≠ handle.numbered + 1) :
    handle.Redirects earlier driver name where
  marked inside := change_database_marked (state_eq_in_transaction.mp inside).2
  rejected outside error unwritten :=
    change_database_unwritten (sound.unmarked_of_state outside) unwritten
  closed free target written := by
    have unconnected := state_eq_closed.mp free
    exact change_database_free (sound.unmarked unconnected) written unconnected
  reopened opened number held target written := by
    intro fresh reply step
    have unmarked := (state_eq_opened.mp opened).2
    have visible := ConnectionString.is_blank_text_with_database written
    have given : number ≤ handle.numbered := sound.numbered number held
    have whole : step = ⟨reply, [.sent number .close, .opening fresh target],
        { handle with
          connectionString := target
          connection := if reply.isOk then some fresh else none
          numbered := fresh }⟩ := by
      simp only [step]
      rw [change_database_held unmarked written held, open_connection_visible rfl visible]
    refine ⟨by omega, unnamed, whole, ?_⟩
    rw [whole]
    cases reply.isOk with
    | false => exact state_eq_closed.mpr rfl
    | true => exact state_eq_opened.mpr ⟨⟨fresh, rfl⟩, unmarked⟩
  lasting outside target written later afterwards := by
    intro moved unwritten
    have unmarked := sound.unmarked_of_state outside
    have writes : (Operation.changeDatabase name).target? handle = some target :=
      Operation.target?_eq_some_iff.mpr ⟨name, rfl, unmarked, written⟩
    have movedString : moved.connectionString = target := by
      rw [(change_database_string name driver handle).1, writes, Option.getD_some]
    have visible := ConnectionString.is_blank_text_with_database written
    exact targets_of_visible ((Operation.course_unwritten unwritten).trans movedString) visible

/-- No call of a course has the number that comes next. -/
theorem number_ne_next (dialect : Dialect) (connectionString : String) (past : Driver)
    (earlier : List Operation) :
    let reached := course earlier past (closed dialect connectionString)
    ∀ call ∈ reached.calls, call.number ≠ reached.handle.numbered + 1 := by
  intro reached call member
  have passed := course_orderly earlier past _ (closed_sound dialect connectionString)
  have unnamed := (Log.records_of_booking passed.booked).2 (reached.handle.numbered + 1)
  rw [passed.sound.next_unasked] at unnamed
  rw [← Driver.map_call_events past reached.calls] at member
  obtain ⟨event, logged, rfl⟩ := List.mem_map.mp member
  exact unnamed event logged

end Handle

/-- To go to another database is all or nothing up to the reopening, on every handle that can be
reached: the handle is what any operations, on any driver, have made of a new one, and the driver
that the operation meets is any driver too.

Proof: a handle that is reached is sound, and its next number was never used before. The change is
followed case by case: it is refused, the string cannot be rewritten, no connection is held, or one
is, which is closed and another one opened. -/
theorem course_redirects (dialect : Dialect) (connectionString : String) (past : Driver)
    (earlier : List Operation) (driver : Driver) (name : String) :
    let reached := course earlier past (Handle.closed dialect connectionString)
    reached.handle.Redirects reached.calls driver name := by
  intro reached
  have passed := course_orderly earlier past _ (Handle.closed_sound dialect connectionString)
  exact Handle.redirects_of_sound passed.sound
    (Handle.number_ne_next dialect connectionString past earlier)

end SqlAccess
