import SqlAccess.Proofs.Connection.Ephemeral
import SqlAccess.Proofs.ConnectionString.UrlDatabase

/-!
# Refusals

Some errors are this library's own: names, states, page requests and types are refused by it and
never by a driver. They are meant to be raised before the driver is touched. Main statement: on
every handle and with any arguments that is so for all operations but those that name a table. Such
an operation judges its name in two parts. A blank name is refused at once; the rest is judged by
the work, where a connection is in use already, and the page is judged there last of all, behind the
list of tables. When that makes a difference is said exactly. A late refusal changes nothing that
the handle holds either.

A driver is honest when it answers with no error that is this library's own. What looks things up
cannot be refused on such a driver, so a refusal always comes from a judgement.
-/

namespace SqlAccess

/-- True for the errors that are this library's own. -/
def Error.isRefusal : Error → Bool
  | .configuration _ | .databaseName _ _ | .transactionState _ | .invalidState _
  | .unsupportedType _ _ => true
  | .connectParams _ _ | .database _ _ _ | .invalidInput _ => false

/-- A result that is no refusal; it may be a failure. -/
def Unrefused {α : Type} (result : Except Error α) : Prop :=
  ∀ error, result = .error error → error.isRefusal = false

/-- None of the answers is an error that is this library's own. -/
structure Answers.Honest (answers : Answers) : Prop where
  openConnection : ∀ connectionString, Unrefused (answers.openConnection connectionString)
  query : ∀ sql params, Unrefused (answers.query sql params)
  execute : ∀ sql params, Unrefused (answers.execute sql params)
  begin : Unrefused answers.begin
  commit : Unrefused answers.commit
  rollback : Unrefused answers.rollback
  version : Unrefused answers.version

/-- A driver that is honest at each of the calls to come. -/
def Driver.Honest (driver : Driver) : Prop := ∀ call, (driver call).Honest

section Unrefused

variable {α β : Type}

/-- A value is no refusal. -/
theorem unrefused_ok (value : α) : Unrefused (.ok value) := fun _ impossible => nomatch impossible

/-- A failure of the driver is no refusal. -/
theorem unrefused_error {error : Error} (foreign : error.isRefusal = false) :
    Unrefused (.error error : Except Error α) := by
  intro other same
  cases same
  exact foreign

/-- A value that is changed makes no refusal. -/
theorem Unrefused.map {result : Except Error α} (unrefused : Unrefused result)
    (change : α → β) :
    Unrefused (result.map change) := by
  cases result with
  | ok value => exact unrefused_ok (change value)
  | error error => exact unrefused_error (unrefused error rfl)

/-- What the faults of native drivers become is none of this library's own errors. -/
theorem is_refusal_of_fault :
    (∀ fault, (Error.ofClientFault fault).isRefusal = false) ∧
      ∀ fault, (Error.ofTdsFault fault).isRefusal = false :=
  ⟨fun fault => by cases fault <;> rfl, fun fault => by cases fault <;> rfl⟩

end Unrefused

namespace Driver.Honest

variable {driver : Driver}

/-- An honest driver is honest at the next call. -/
theorem now (honest : driver.Honest) : driver.now.Honest := honest 0

/-- An honest driver stays honest. -/
theorem after (honest : driver.Honest) (calls : Nat) : (driver.after calls).Honest :=
  fun call => honest (calls + call)

end Driver.Honest

/-- What a script lets fail fails with an error of the driver. -/
theorem Script.unrefused_failing_with {α : Type} (failure : Option String) (value : α) :
    Unrefused (failingWith failure value) := by
  cases failure with
  | none => exact unrefused_ok value
  | some message => exact unrefused_error rfl

/-- The answers of every script are honest. -/
theorem Script.honest (script : Script) : script.answers.Honest where
  openConnection _ := by
    unfold answers
    dsimp only
    split
    · exact unrefused_error rfl
    · exact unrefused_ok ()
  query sql params := by
    dsimp only [answers]
    unfold rows
    split
    · rename_i response _
      cases response.answer with
      | error message => exact unrefused_error rfl
      | ok rows => exact unrefused_ok rows
    · exact unrefused_ok []
  execute _ _ := unrefused_failing_with script.failures.execute script.affected
  begin := unrefused_failing_with script.failures.begin ()
  commit := unrefused_failing_with script.failures.commit ()
  rollback := unrefused_failing_with script.failures.rollback ()
  version := unrefused_failing_with script.failures.version script.version

/-- A driver that answers from a script is honest, also where another script is taken at each
call. -/
theorem Driver.honest_of_scripts (scripts : Nat → Script) :
    Driver.Honest fun call => (scripts call).answers := fun call => (scripts call).honest

namespace Work

variable {α β : Type} {driver : Driver}

/-- Work that is never refused by an honest driver. -/
def Unjudging (work : Work α) : Prop :=
  ∀ driver, driver.Honest → Unrefused (work driver).result

/-- Two pieces of work judge nothing where neither does. -/
theorem unjudging_bind {work : Work α} {next : α → Work β} (first : work.Unjudging)
    (second : ∀ value, (next value).Unjudging) : (work >>= next).Unjudging := by
  intro driver honest
  cases answered : (work driver).result with
  | error error =>
    rw [and_then_of_error work next driver error answered]
    exact unrefused_error (first driver honest error answered)
  | ok value =>
    rw [and_then_of_ok work next driver value answered]
    exact second value _ (honest.after _)

/-- Looking things up judges nothing. -/
theorem Lookup.unjudging {work : Work α} (looksUp : Lookup work) : work.Unjudging := by
  induction looksUp with
  | pure value => exact fun _ _ => unrefused_ok value
  | query sql params => exact fun _ honest => honest.now.query sql params
  | bind _ _ first second => exact unjudging_bind first second

/-- What has been asked stays asked, whatever follows. -/
theorem commands_bind_ne_nil {work : Work α} {next : α → Work β}
    (asked : (work driver).commands ≠ []) : ((work >>= next) driver).commands ≠ [] := by
  cases answered : (work driver).result with
  | error error => rwa [and_then_of_error work next driver error answered]
  | ok value =>
    rw [and_then_of_ok work next driver value answered]
    exact fun none => asked (List.append_eq_nil_iff.mp none).1

end Work

namespace Catalog

open Work

variable {α : Type} {dialect : Dialect} {name : String} {missing : α}
  {work : TableRef → Work α}
  {driver : Driver}

/-- A name that names no table is refused, and nothing is asked. -/
theorem with_table_unnamed {error : Error} (unnamed : TableName.parse name = .error error) :
    withTable dialect name missing work driver = ⟨.error error, []⟩ := by
  have resolved : resolve dialect name driver = ⟨.error error, []⟩ := by
    have judged : (Work.answer (TableName.parse name) driver).result = .error error := unnamed
    rw [resolve, and_then_of_error _ _ driver error judged]
    rfl
  rw [withTable, and_then_of_error _ _ driver error (congrArg Outcome.result resolved), resolved]

/-- For a name of a table the list of tables is read before anything else. -/
theorem with_table_named {requested : TableRef} (named : TableName.parse name = .ok requested) :
    withTable dialect name missing work =
      tables dialect >>= fun entries =>
        (TableName.resolve (defaultSchema dialect) entries requested).elim (pure missing) work := by
  calc withTable dialect name missing work
      = resolve dialect name >>= fun found => found.elim (pure missing) work :=
        bind_congr fun found => by cases found <;> rfl
    _ = (tables dialect >>= fun entries =>
          pure (TableName.resolve (defaultSchema dialect) entries requested)) >>= fun found =>
            found.elim (pure missing) work := by
        rw [resolve, named, show Work.answer (.ok requested) = pure requested from rfl, pure_bind]
    _ = _ := by simp only [bind_assoc, pure_bind]

/-- Work on a table asks nothing exactly when its name names none. -/
theorem with_table_silent_iff :
    (withTable dialect name missing work driver).commands = [] ↔
      (TableName.parse name).isOk = false := by
  cases named : TableName.parse name with
  | error error =>
    rw [with_table_unnamed named]
    exact iff_of_true rfl rfl
  | ok requested =>
    have asked : (tables dialect driver).commands ≠ [] := by
      unfold tables
      exact commands_bind_ne_nil (List.cons_ne_nil (Command.query (tablesQuery dialect) []) [])
    rw [with_table_named named]
    exact iff_of_false (commands_bind_ne_nil asked) fun impossible => nomatch impossible

/-- A look-up about a table is refused by the name alone. -/
theorem with_table_unrefused (named : (TableName.parse name).isOk = true)
    (looksUp : ∀ table, Lookup (work table)) :
    (withTable dialect name missing work).Unjudging := by
  intro driver honest
  cases parsed : TableName.parse name with
  | error error =>
    rw [parsed] at named
    cases named
  | ok requested =>
    rw [with_table_named parsed]
    refine unjudging_bind (tables_lookup dialect).unjudging (fun entries => ?_) driver honest
    cases TableName.resolve (defaultSchema dialect) entries requested with
    | none => exact fun _ _ => unrefused_ok missing
    | some table => exact (looksUp table).unjudging

end Catalog

namespace ConnectionString

open Text

/-- A text with something visible in it is not blank. -/
theorem is_blank_text_of_mem {s : List Char} {c : Char} (inside : c ∈ s)
    (ink : isBlank c = false) :
    isBlankText (String.ofList s) = false := by
  rw [isBlankText, String.toList_ofList, List.all_eq_false]
  exact ⟨c, inside, by rw [ink]; exact Bool.false_ne_true⟩

/-- Settings for another database are not blank. -/
theorem is_blank_text_settings (s : List Char) {name : List Char}
    (valid : DatabaseName.isValid name = true) :
    isBlankText (String.ofList (Settings.withDatabase s name)) = false := by
  have named := Settings.database?_with_database s valid
  rw [isBlankText, String.toList_ofList, Bool.eq_false_iff, ne_eq, ← trim_eq_nil_iff,
    (Settings.trimmed_with_database s valid).trim_eq]
  intro empty
  rw [empty] at named
  cases named

/-- What is written for another database is never blank: the name stands in it, or the mark of a
scheme. -/
theorem is_blank_text_with_database {dialect : Dialect} {connectionString name target : String}
    (written : withDatabase dialect connectionString name = .ok target) :
    isBlankText target = false := by
  obtain ⟨valid, visible, stored⟩ := of_with_database_ok written
  have accepted : DatabaseName.validate name = .ok () := DatabaseName.validate_eq_ok_iff.mpr valid
  by_cases file : dialect = .sqlite
  · subst file
    rw [with_database_file visible (stored rfl), accepted] at written
    obtain rfl := Except.ok.inj written
    obtain ⟨first, inName⟩ :=
      List.exists_mem_of_ne_nil _ (DatabaseName.ne_nil_of_is_valid valid)
    refine is_blank_text_of_mem ?_ (DatabaseName.is_blank_of_mem valid first inName)
    rw [FilePath.text_with_stem]
    exact List.mem_append_right _ (List.mem_append_left _ inName)
  · cases recognized : isUrl (trim connectionString.toList) with
    | false =>
      rw [with_database_settings file visible recognized, accepted] at written
      obtain rfl := Except.ok.inj written
      exact is_blank_text_settings _ valid
    | true =>
      cases read : Url.parse? (trim connectionString.toList) with
      | error fault =>
        -- nothing is written in place of a URL that cannot be read
        cases dialect with
        | sqlite => exact absurd rfl file
        | postgres | sqlServer =>
          simp [withDatabase, accepted, visible, recognized, read, bind, Except.bind, throw,
            throwThe, MonadExceptOf.throw] at written
      | ok url =>
        rw [with_database_url file recognized read, accepted] at written
        obtain rfl := Except.ok.inj written
        refine is_blank_text_of_mem (c := ':') ?_ (by decide)
        rw [Url.text_eq]
        exact List.mem_append_left _ (List.mem_append_right _ (by decide))

end ConnectionString

/-- How a refusal leaves things. One that is not late comes before any call and leaves the handle as
it was. A late one has made calls, and all that it can change is the count of numbers, by the one of
a connection that was opened for the purpose. -/
structure Step.Refuses {α : Type} (step : Step α) (before : Handle) (late : Bool) : Prop where
  outright : late = false → step.calls = [] ∧ step.handle = before
  behind : late = true → step.calls ≠ [] ∧
    step.handle = match before.connection with
      | some _ => before
      | none => { before with numbered := before.numbered + 1 }

namespace Action

variable {α β : Type} {action : Action α} {next : α → Action β}

/-- No honest driver lets the action end in a refusal. -/
def NeverRefuses (action : Action α) : Prop :=
  ∀ driver handle, driver.Honest → Unrefused (action driver handle).result

/-- With an honest driver every refusal comes before any call. -/
def RefusesFirst (action : Action α) : Prop :=
  ∀ driver handle error, driver.Honest → (action driver handle).result = .error error →
    error.isRefusal = true →
      (action driver handle).calls = [] ∧ (action driver handle).handle = handle

/-- Where nothing is refused, nothing is refused late. -/
theorem NeverRefuses.refuses_first (never : action.NeverRefuses) : action.RefusesFirst := by
  intro driver handle error honest refused own
  rw [never driver handle honest error refused] at own
  cases own

/-- Two actions refuse nothing where neither does. -/
theorem never_refuses_bind (first : action.NeverRefuses)
    (second : ∀ value, (next value).NeverRefuses) : (action >>= next).NeverRefuses := by
  intro driver handle honest
  cases answered : (action driver handle).result with
  | error error =>
    rw [and_then_of_error action next driver handle error answered]
    exact unrefused_error (first driver handle honest error answered)
  | ok value =>
    rw [and_then_of_ok action next driver handle value answered]
    exact second value _ _ (honest.after _)

/-- A value is no refusal. -/
theorem never_refuses_pure (value : α) : (pure value : Action α).NeverRefuses :=
  fun _ _ _ => unrefused_ok value

/-- A refusal that stands alone comes before any call. -/
theorem refuses_first_answer (result : Except Error α) : (answer result).RefusesFirst :=
  fun _ _ _ _ _ _ => ⟨rfl, rfl⟩

/-- A judgement in front makes no call. -/
theorem refuses_first_answer_bind {result : Except Error α}
    (later : ∀ value, (next value).RefusesFirst) : (answer result >>= next).RefusesFirst := by
  cases result with
  | error error =>
    intro driver handle other _ _ _
    rw [answer_error_and_then]
    exact ⟨rfl, rfl⟩
  | ok value =>
    intro driver handle error honest refused own
    rw [answer_ok_and_then] at refused ⊢
    exact later value driver handle error honest refused own

/-- A look at the handle makes no call. -/
theorem refuses_first_current_bind {next : Handle → Action β}
    (later : ∀ handle, (next handle).RefusesFirst) : (current >>= next).RefusesFirst := by
  intro driver handle error honest refused own
  rw [current_and_then] at refused ⊢
  exact later handle driver handle error honest refused own

end Action

/-- An iteration goes on after a refusal and is not refused itself. -/
theorem Batch.iterate_never_refuses (calls : List BatchCall) (batch : Batch) :
    Action.NeverRefuses (batch.iterate calls) := by
  induction calls generalizing batch with
  | nil => exact Action.never_refuses_pure batch
  | cons call rest inductionHypothesis =>
    exact Action.never_refuses_bind (fun _ _ _ => unrefused_ok _) inductionHypothesis

namespace Handle

open SqlAccess.Action

variable {α : Type} {driver : Driver} {handle : Handle} {error : Error}

/-- Work that judges nothing is not refused, on whatever connection it is done. -/
theorem run_never_refuses {work : Work α} (unjudging : work.Unjudging) :
    NeverRefuses (run work) := by
  intro driver handle honest
  cases held : handle.connection with
  | some number =>
    rw [run_held work held]
    exact unjudging driver honest
  | none =>
    cases reply : driver.now.openConnection handle.connectionString with
    | error error =>
      simp only [run, held, dial, reply, Except.map]
      exact unrefused_error (honest.now.openConnection _ error reply)
    | ok value =>
      rw [run_free work held reply]
      exact unjudging _ (honest.after 1)

/-- Statements are left to the driver to judge. -/
theorem execute_never_refuses (sql : String) (params : List Param) :
    NeverRefuses (execute sql params) :=
  run_never_refuses fun _ honest => honest.now.execute sql params

/-- So are queries. -/
theorem query_never_refuses (sql : String) (params : List Param) :
    NeverRefuses (query sql params) :=
  run_never_refuses (Work.Lookup.query sql params).unjudging

/-- The version can always be asked for. -/
theorem server_version_never_refuses : NeverRefuses serverVersion :=
  run_never_refuses fun _ honest => honest.now.version

/-- A connection string that shows something is left to the driver to judge. -/
theorem open_connection_unrefused (honest : driver.Honest)
    (visible : Text.isBlankText handle.connectionString = false) :
    Unrefused (openConnection driver handle).result := by
  cases held : handle.connection with
  | some number =>
    rw [open_connection_held held]
    exact unrefused_ok ()
  | none =>
    cases reply : driver.now.openConnection handle.connectionString with
    | error error =>
      simp only [openConnection, held, visible, Bool.false_eq_true, if_false, dial, reply,
        Except.map]
      exact unrefused_error (honest.now.openConnection _ error reply)
    | ok value =>
      simp only [openConnection, held, visible, Bool.false_eq_true, if_false, dial, reply,
        Except.map]
      exact unrefused_ok ()

/-- A blank connection string is refused before the driver is asked for a connection. -/
theorem open_connection_refuses_first : RefusesFirst openConnection := by
  intro driver handle error honest refused own
  cases blank : Text.isBlankText handle.connectionString with
  | false =>
    rw [open_connection_unrefused honest blank error refused] at own
    cases own
  | true =>
    cases held : handle.connection with
    | some number =>
      rw [open_connection_held held]
      exact ⟨rfl, rfl⟩
    | none =>
      simp only [openConnection, held, blank, if_true, and_self]

/-- Closing is never refused. -/
theorem close_connection_never_refuses : NeverRefuses closeConnection := by
  intro driver handle _
  unfold closeConnection
  split <;> exact unrefused_ok ()

/-- A transaction that cannot begin is refused before the driver is asked. -/
theorem begin_transaction_refuses_first : RefusesFirst beginTransaction := by
  intro driver handle error honest refused own
  cases marked : handle.transaction with
  | true =>
    rw [begin_transaction_marked marked]
    exact ⟨rfl, rfl⟩
  | false =>
    cases held : handle.connection with
    | none =>
      rw [begin_transaction_free marked held]
      exact ⟨rfl, rfl⟩
    | some number =>
      cases reply : driver.now.begin with
      | ok value =>
        simp only [beginTransaction, marked, Bool.false_eq_true, if_false, held, reply] at refused
        cases refused
      | error reason =>
        simp only [beginTransaction, marked, Bool.false_eq_true, if_false, held, reply] at refused
        cases refused
        rw [honest.now.begin error reply] at own
        cases own

/-- A transaction that is not there is refused to end before the driver is asked. -/
theorem end_transaction_refuses_first (deed : String) (command : Command)
    {reply : Answers → Except Error Unit}
    (foreign : ∀ answers : Answers, answers.Honest → Unrefused (reply answers)) :
    RefusesFirst (endTransaction deed command reply) := by
  intro driver handle error honest refused own
  unfold endTransaction at refused ⊢
  split at refused
  · rw [foreign driver.now honest.now error refused] at own
    cases own
  · exact ⟨rfl, rfl⟩

/-- Touching a database is left to the driver to judge. -/
theorem touch_never_refuses (connectionString : String) : NeverRefuses (touch connectionString) :=
  never_refuses_bind
    (fun _ _ honest => (honest.now.openConnection connectionString).map _)
    fun _ _ _ _ => unrefused_ok ()

/-- Another database is refused before the connection is let go: the connection string that is
written for it can only be refused by the driver. -/
theorem change_database_refuses_first (name : String) : RefusesFirst (changeDatabase name) := by
  intro driver handle error honest refused own
  obtain ⟨_, idle⟩ | ⟨_, _, written, ⟨_, rewritten⟩ | ⟨_, _, reopened⟩⟩ :=
    change_database_cases driver handle name
  · rw [idle]
    exact ⟨rfl, rfl⟩
  · rw [rewritten] at refused
    cases refused
  · rw [reopened] at refused
    rw [open_connection_unrefused (honest.after 1)
      (ConnectionString.is_blank_text_with_database written) error refused] at own
    cases own

/-- A name is judged before a database of that name is created. -/
theorem create_database_refuses_first (name : String) : RefusesFirst (createDatabase name) := by
  apply refuses_first_answer_bind
  intro _
  apply refuses_first_current_bind
  intro handle
  have created (dialect : Dialect) :
      RefusesFirst (if handle.inTransaction then
          refuse (.transactionState "CREATE DATABASE cannot run inside a transaction")
        else do
          let _ ← execute ("CREATE DATABASE " ++ dialect.quoteIdentifier name) []) := by
    split
    · exact refuses_first_answer _
    · refine (never_refuses_bind (execute_never_refuses _ _) fun _ => ?_).refuses_first
      exact never_refuses_pure ()
  cases known : handle.dialect with
  | sqlite =>
    apply refuses_first_answer_bind
    intro target
    exact (touch_never_refuses target).refuses_first
  | postgres => exact created .postgres
  | sqlServer => exact created .sqlServer

section Tables

variable {table : String} {work : Dialect → Work α}

/-- Work is refused on the connection of the handle, or late on one that is opened for it; `late`
says whether it has asked for something before it refuses. -/
theorem run_refuses {work : Work α} (late : Bool) (honest : driver.Honest)
    (refused : (run work driver handle).result = .error error) (own : error.isRefusal = true)
    (judged : (work driver).result = .error error →
      ((work driver).commands = [] ↔ late = false)) :
    (run work driver handle).Refuses handle (handle.connection.isNone || late) := by
  cases held : handle.connection with
  | some number =>
    rw [run_held work held] at refused ⊢
    have silent := judged refused
    constructor
    · intro early
      exact ⟨List.map_eq_nil_iff.mpr (silent.mpr early), rfl⟩
    · intro asked
      refine ⟨fun none => ?_, by rw [held]⟩
      rw [silent.mp (List.map_eq_nil_iff.mp none)] at asked
      cases asked
  | none =>
    -- a refusal is not the driver's, so the connection was opened, and it is closed again
    cases reply : driver.now.openConnection handle.connectionString with
    | error reason =>
      simp only [run, held, dial, reply, Except.map] at refused
      cases refused
      rw [honest.now.openConnection _ error reply] at own
      cases own
    | ok value =>
      rw [run_free work held reply]
      constructor
      · intro impossible
        cases impossible
      · intro _
        exact ⟨List.cons_ne_nil _ _, by rw [held]⟩

/-- A blank name is refused before anything else is looked at. -/
theorem about_table_blank (blank : Text.isBlankText table = true) :
    aboutTable table work driver handle =
      ⟨.error (.configuration "table name must not be empty"), [], handle⟩ := by
  have required : TableName.require table =
      .error (.configuration "table name must not be empty") := by
    rw [TableName.require, blank]
    rfl
  rw [aboutTable, required, answer_error_and_then]

/-- Work about a table is refused outright for a blank name, and otherwise as work is. -/
theorem about_table_refuses (late : Bool) (honest : driver.Honest)
    (refused : (aboutTable table work driver handle).result = .error error)
    (own : error.isRefusal = true)
    (judged : (work handle.dialect driver).result = .error error →
      ((work handle.dialect driver).commands = [] ↔ late = false)) :
    (aboutTable table work driver handle).Refuses handle
      (!Text.isBlankText table && (handle.connection.isNone || late)) := by
  cases blank : Text.isBlankText table with
  | true =>
    rw [about_table_blank blank]
    constructor
    · exact fun _ => ⟨rfl, rfl⟩
    · intro impossible
      cases impossible
  | false =>
    rw [about_table_eq_run blank] at refused ⊢
    exact run_refuses late honest refused own judged

/-- A look-up is refused for a name that names no table, which it judges before it asks. -/
theorem about_table_lookup_refuses {missing : α} {looked : Dialect → TableRef → Work α}
    (looksUp : ∀ dialect entry, Work.Lookup (looked dialect entry)) (honest : driver.Honest)
    (refused : (aboutTable table
      (fun dialect => Catalog.withTable dialect table missing (looked dialect)) driver
      handle).result = .error error)
    (own : error.isRefusal = true) :
    (aboutTable table (fun dialect => Catalog.withTable dialect table missing (looked dialect))
      driver handle).Refuses handle (!Text.isBlankText table && handle.connection.isNone) := by
  have step := about_table_refuses false honest refused own fun judged =>
    iff_of_true (Catalog.with_table_silent_iff.mpr (Bool.eq_false_iff.mpr fun named => by
      rw [Catalog.with_table_unrefused named (looksUp handle.dialect) driver honest error judged]
        at own
      cases own)) rfl
  rwa [Bool.or_false] at step

end Tables

end Handle

namespace Operation

open SqlAccess.Action

variable {driver : Driver} {handle : Handle} {error : Error}

/-- True where a refusal of the operation comes late. A name that is not blank is judged on a
connection, so a handle without one opens one for that; and a page is judged behind the list of
tables, so on every handle. -/
def judgesLate (operation : Operation) (handle : Handle) : Bool :=
  match operation with
  | .columns table | .foreignKeys table | .triggers table | .tableDefinition table =>
    !Text.isBlankText table && handle.connection.isNone
  | .queryPage table _ =>
    !Text.isBlankText table && (handle.connection.isNone || (TableName.parse table).isOk)
  | _ => false

/-- The name of a table that the operation is about. -/
def table? : Operation → Option String
  | .columns table | .foreignKeys table | .triggers table | .tableDefinition table
  | .queryPage table _ => some table
  | _ => none

/-- An operation that names no table refuses before any call. -/
theorem perform_refuses_first (operation : Operation) (other : operation.table? = none) :
    RefusesFirst operation.perform := by
  cases operation with
  | openConnection => exact Handle.open_connection_refuses_first
  | closeConnection => exact Handle.close_connection_never_refuses.refuses_first
  | beginTransaction => exact Handle.begin_transaction_refuses_first
  | commit => exact Handle.end_transaction_refuses_first _ _ fun _ honest => honest.commit
  | rollback => exact Handle.end_transaction_refuses_first _ _ fun _ honest => honest.rollback
  | changeDatabase name => exact Handle.change_database_refuses_first name
  | createDatabase name => exact Handle.create_database_refuses_first name
  | execute sql params => exact (Handle.execute_never_refuses sql params).refuses_first
  | query sql params => exact (Handle.query_never_refuses sql params).refuses_first
  | queryFirst sql params =>
    exact (never_refuses_bind (Handle.query_never_refuses sql params) fun _ =>
      never_refuses_pure _).refuses_first
  | queryScalar sql params =>
    exact (never_refuses_bind (never_refuses_bind (Handle.query_never_refuses sql params) fun _ =>
      never_refuses_pure _) fun _ => never_refuses_pure _).refuses_first
  | tables =>
    apply refuses_first_current_bind
    intro handle
    exact (Handle.run_never_refuses (Catalog.tables_lookup handle.dialect).unjudging).refuses_first
  | serverVersion => exact Handle.server_version_never_refuses.refuses_first
  | info =>
    refine (never_refuses_bind Handle.server_version_never_refuses fun _ => ?_).refuses_first
    exact never_refuses_bind (fun _ handle _ => unrefused_ok handle) fun _ => never_refuses_pure _
  | foreach names calls =>
    apply refuses_first_current_bind
    intro handle
    apply refuses_first_answer_bind
    intro batch
    exact (Batch.iterate_never_refuses calls batch).refuses_first
  | queryPage _ _ | columns _ | foreignKeys _ | triggers _ | tableDefinition _ => cases other

/-- A refused operation was refused outright, or late where it judges late. -/
theorem perform_refuses (operation : Operation) (honest : driver.Honest)
    (refused : (operation.perform driver handle).result = .error error)
    (own : error.isRefusal = true) :
    (operation.perform driver handle).Refuses handle (operation.judgesLate handle) := by
  cases named : operation.table? with
  | none =>
    have outright := operation.perform_refuses_first named driver handle error honest refused own
    have early : operation.judgesLate handle = false := by
      cases operation <;> first | rfl | cases named
    rw [early]
    exact ⟨fun _ => outright, fun impossible => nomatch impossible⟩
  | some table =>
    cases operation with
    | columns name =>
      exact Handle.about_table_lookup_refuses Catalog.columns_of_lookup honest refused own
    | foreignKeys name =>
      exact Handle.about_table_lookup_refuses Catalog.foreign_keys_of_lookup honest refused own
    | triggers name =>
      exact Handle.about_table_lookup_refuses Catalog.triggers_of_lookup honest refused own
    | tableDefinition name =>
      exact Handle.about_table_lookup_refuses Catalog.definition_of_lookup honest refused own
    | queryPage name request =>
      exact Handle.about_table_refuses _ honest refused own fun _ => Catalog.with_table_silent_iff
    | _ => cases named

end Operation

end SqlAccess
