import SqlAccess.Proofs.Connection.Ledger

/-!
# Passages from handle to handle

The ledger of a handle follows from what it holds and how many numbers it has given. Calls are a
passage from one handle to another when the log of these calls can be booked on the ledger of
the first and gives the ledger of the second. Main statements: passages compose; a connection
that is refused, and one that is opened for some plain work and closed, only uses up a number.
-/

namespace SqlAccess

/-- What holds of a handle between two actions. -/
structure Handle.Sound (handle : Handle) : Prop where
  /-- The marker of a transaction is there only beside a connection. -/
  marked : handle.transaction = true → handle.connection.isSome = true
  /-- The connection has one of the numbers that were given. -/
  numbered : ∀ number, handle.connection = some number → number ≤ handle.numbered

/-- The ledger that fits a handle: every number that was given and is not held is gone. -/
def Handle.ledger (handle : Handle) : Ledger := fun number =>
  if handle.connection = some number then (if handle.transaction then .begun else .idle)
  else if number ≤ handle.numbered then .gone
  else .unasked

namespace Handle

variable {handle : Handle} {number : Nat}

/-- A new handle is sound. -/
theorem closed_sound (dialect : Dialect) (connectionString : String) :
    (closed dialect connectionString).Sound where
  marked impossible := absurd impossible Bool.false_ne_true
  numbered _ impossible := nomatch impossible

/-- Without a connection there is no marker. -/
theorem Sound.unmarked (sound : handle.Sound) (free : handle.connection = none) :
    handle.transaction = false := by
  cases marked : handle.transaction with
  | false => rfl
  | true =>
    have held : handle.connection.isSome = true := sound.marked marked
    simp [free] at held

/-- The next number has not been asked for. -/
theorem Sound.next_unasked (sound : handle.Sound) :
    handle.ledger (handle.numbered + 1) = .unasked := by
  have free : handle.connection ≠ some (handle.numbered + 1) := by
    intro held
    have given := sound.numbered _ held
    omega
  simp [ledger, free]

/-- The held connection is open, with a transaction where the marker is there. -/
theorem ledger_held (held : handle.connection = some number) :
    handle.ledger number = if handle.transaction then .begun else .idle := by
  simp [ledger, held]

/-- A new number that is gone leaves what is held as it is. -/
theorem ledger_passed (sound : handle.Sound) :
    Function.update handle.ledger (handle.numbered + 1) .gone =
      { handle with numbered := handle.numbered + 1 }.ledger := by
  funext number
  by_cases fresh : number = handle.numbered + 1
  · subst fresh
    have free : handle.connection ≠ some (handle.numbered + 1) := by
      intro held
      have given := sound.numbered _ held
      omega
    simp [ledger, free]
  · have sameBound : number ≤ handle.numbered + 1 ↔ number ≤ handle.numbered := by omega
    simp [ledger, Function.update_of_ne fresh, sameBound]

/-- A free handle that takes a new connection has it open. -/
theorem ledger_taken (sound : handle.Sound) (free : handle.connection = none) :
    Function.update handle.ledger (handle.numbered + 1) .idle =
      { handle with
        connection := some (handle.numbered + 1)
        numbered := handle.numbered + 1 }.ledger := by
  funext number
  by_cases fresh : number = handle.numbered + 1
  · subst fresh
    simp [ledger, sound.unmarked free]
  · have other : handle.numbered + 1 ≠ number := Ne.symm fresh
    have sameBound : number ≤ handle.numbered + 1 ↔ number ≤ handle.numbered := by omega
    simp [ledger, Function.update_of_ne fresh, sameBound, free, other]

/-- A handle that lets go of its connection has it gone. -/
theorem ledger_released (sound : handle.Sound) (held : handle.connection = some number) :
    Function.update handle.ledger number .gone =
      { handle with connection := none, transaction := false }.ledger := by
  funext other
  by_cases same : other = number
  · subst same
    have given : other ≤ handle.numbered := sound.numbered other held
    simp [ledger, given]
  · have different : number ≠ other := Ne.symm same
    simp [ledger, Function.update_of_ne same, held, different]

/-- A marker says how the held connection stands, and nothing about the others. -/
theorem ledger_marked (held : handle.connection = some number) (marker : Bool) :
    Function.update handle.ledger number (if marker then .begun else .idle) =
      { handle with transaction := marker }.ledger := by
  funext other
  by_cases same : other = number
  · subst same
    simp [ledger, held]
  · have different : number ≠ other := Ne.symm same
    simp [ledger, Function.update_of_ne same, held, different]

/-- The calls lead from a handle to a sound one, and from ledger to ledger. -/
structure Passes (driver : Driver) (before : Handle) (calls : List Call) (after : Handle) :
    Prop where
  sound : after.Sound
  booked : before.ledger.bookAll? (driver.events calls) = some after.ledger

variable {driver : Driver}

/-- No call is needed to stay. -/
theorem Passes.stay (sound : handle.Sound) : Passes driver handle [] handle := ⟨sound, rfl⟩

/-- Passages compose; the second one meets what the first has left of the driver. -/
theorem Passes.trans {before middle after : Handle} {first second : List Call}
    (earlier : Passes driver before first middle)
    (later : Passes (driver.after first.length) middle second after) :
    Passes driver before (first ++ second) after := by
  refine ⟨later.sound, ?_⟩
  rw [Driver.events_append, Ledger.book_all?_append, earlier.booked]
  exact later.booked

/-- A connection that is refused uses up its number. -/
theorem Passes.refused (sound : handle.Sound) {connectionString : String} {error : Error}
    (reply : driver.now.openConnection connectionString = .error error) :
    Passes driver handle [.opening (handle.numbered + 1) connectionString]
      { handle with numbered := handle.numbered + 1 } := by
  refine
    ⟨⟨sound.marked, fun number held => Nat.le_succ_of_le (sound.numbered number held)⟩, ?_⟩
  simp only [Driver.events, Ledger.bookAll?, Ledger.book?, Call.number, Standing.next?,
    sound.next_unasked, Answers.grants, reply, Except.isOk, Except.toBool, Bool.false_eq_true,
    if_false, Option.map_some, Option.bind_some, ledger_passed sound]

/-- A connection of its own is opened, asked plain things and closed; the handle only counts it. -/
theorem Passes.ephemeral (sound : handle.Sound) {connectionString : String}
    (reply : driver.now.openConnection connectionString = .ok ()) {commands : List Command}
    (plain : ∀ command ∈ commands, command.isPlain = true) :
    Passes driver handle
      (.opening (handle.numbered + 1) connectionString ::
        (commands ++ [Command.close]).map (.sent (handle.numbered + 1)))
      { handle with numbered := handle.numbered + 1 } := by
  refine
    ⟨⟨sound.marked, fun number held => Nat.le_succ_of_le (sound.numbered number held)⟩, ?_⟩
  have opened : Function.update handle.ledger (handle.numbered + 1) .idle
      (handle.numbered + 1) = .idle := Function.update_self ..
  have asked := Ledger.book_all?_plain
    (Function.update handle.ledger (handle.numbered + 1) .idle) (driver.after 1)
    (handle.numbered + 1) commands (Or.inl opened) plain
  simp only [Driver.events, Ledger.bookAll?, Ledger.book?, Call.number, Standing.next?,
    sound.next_unasked, Answers.grants, reply, Except.isOk, Except.toBool, if_true,
    Option.map_some, Option.bind_some, List.map_append, Driver.events_append,
    Ledger.book_all?_append, asked, List.map_cons, List.map_nil, opened, Function.update_idem,
    ledger_passed sound]

end Handle

end SqlAccess
