import SqlAccess.Error
import SqlAccess.Param
import SqlAccess.Row

/-!
# Native drivers

A driver opens connections and answers what is asked of them. It is described by its
answers alone: those it has at the next call, at the call after that, and so on. It may change
its mind between any two calls, also while an operation is under way; an answer that depends
on the connection or on what was asked before is one that has changed by the time it is given.
Work on a connection is a function from a driver to an answer together with the list of all
that was asked, in order. Work ends at its first error.
-/

namespace SqlAccess

/-- What can be asked of an open connection. -/
inductive Command where
  | query (sql : String) (params : List Param)
  | execute (sql : String) (params : List Param)
  | begin
  | commit
  | rollback
  | version
  | close
deriving DecidableEq, Repr

/-- The answers that a driver has at one call. -/
structure Answers where
  openConnection : String → Except Error Unit
  query : String → List Param → Except Error (List Row)
  /-- The answer is the number of rows that were changed. -/
  execute : String → List Param → Except Error Nat
  begin : Except Error Unit
  commit : Except Error Unit
  rollback : Except Error Unit
  version : Except Error (Option String)
  close : Except Error Unit

/-- A driver: its answers at each of the calls to come. -/
def Driver : Type := Nat → Answers

namespace Driver

/-- The answers at the next call. -/
def now (driver : Driver) : Answers := driver 0

/-- What is left of a driver after some calls. -/
def after (driver : Driver) (calls : Nat) : Driver := fun call => driver (calls + call)

/-- A driver that never changes its mind. -/
def steady (answers : Answers) : Driver := fun _ => answers

/-- No call changes nothing. -/
@[simp]
theorem after_zero (driver : Driver) : driver.after 0 = driver := by
  funext call
  exact congrArg driver (Nat.zero_add call)

/-- Calls add up. -/
@[simp]
theorem after_after (driver : Driver) (first second : Nat) :
    (driver.after first).after second = driver.after (first + second) := by
  funext call
  exact congrArg driver (Nat.add_assoc first second call).symm

end Driver

/-- An answer, and all that was asked for it. -/
structure Outcome (α : Type) where
  result : Except Error α
  commands : List Command

/-- Work on one open connection. -/
def Work (α : Type) : Type := Driver → Outcome α

namespace Work

/-- Work that asks nothing. -/
def answer {α : Type} (result : Except Error α) : Work α := fun _ => ⟨result, []⟩

/-- The next work runs only after an answer without error, on what is left of the driver. -/
def andThen {α β : Type} (work : Work α) (next : α → Work β) : Work β := fun driver =>
  let first := work driver
  match first.result with
  | .error error => ⟨.error error, first.commands⟩
  | .ok value =>
    let second := next value (driver.after first.commands.length)
    ⟨second.result, first.commands ++ second.commands⟩

instance : Monad Work where
  pure value := answer (.ok value)
  bind := andThen

/-- Ask for rows. -/
def query (sql : String) (params : List Param) : Work (List Row) := fun driver =>
  ⟨driver.now.query sql params, [.query sql params]⟩

/-- Have a statement executed. -/
def execute (sql : String) (params : List Param) : Work Nat := fun driver =>
  ⟨driver.now.execute sql params, [.execute sql params]⟩

/-- Ask for the version of the engine. -/
def version : Work (Option String) := fun driver => ⟨driver.now.version, [.version]⟩

/-- Work that follows an error is not done. -/
theorem and_then_of_error {α β : Type} (work : Work α) (next : α → Work β) (driver : Driver)
    (error : Error) (failed : (work driver).result = .error error) :
    (work >>= next) driver = ⟨.error error, (work driver).commands⟩ := by
  simp only [bind, andThen, failed]

/-- Work that follows an answer asks after it. -/
theorem and_then_of_ok {α β : Type} (work : Work α) (next : α → Work β) (driver : Driver)
    (value : α) (answered : (work driver).result = .ok value) :
    (work >>= next) driver =
      let second := next value (driver.after (work driver).commands.length)
      ⟨second.result, (work driver).commands ++ second.commands⟩ := by
  simp only [bind, andThen, answered]

end Work

end SqlAccess
