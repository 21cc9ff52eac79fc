import SqlAccess.Connection.Operations

/-!
# Batches over tables

Operations are collected between a beginning and an end; a batch that has ended is sealed.
Materializing runs every sealed operation for every table and lays what was found over the
results of the batches before. A batch that fails changes nothing and stays sealed; one that
succeeds is not run again.
-/

namespace SqlAccess

/-- What a batch asks of every table. -/
inductive BatchOperation where
  | data (request : Page.Request)
  | columns
  | foreignKeys
  | triggers
  | definition
deriving DecidableEq, Repr

/-- Where a batch is. -/
inductive BatchPhase where
  | notStarted
  | collecting
  | closed
deriving DecidableEq, Repr

/-- The wording of a phase. -/
def BatchPhase.text : BatchPhase → String
  | .notStarted => "not started"
  | .collecting => "collecting"
  | .closed => "closed"

/-- How diagnostics show an optional value. -/
def optionDiagnostic (value : Option String) : String :=
  match value with
  | some text => "Some(" ++ text ++ ")"
  | none => "None"

/-- How diagnostics show a parameter in full. -/
def Param.fullDiagnostic : Param → String
  | .string value => "String(" ++ Text.diagnosticText value ++ ")"
  | .bytes value =>
    "Bytes([" ++ String.intercalate ", " (value.map fun b => Decimal.natText b.toNat) ++ "])"
  | other => other.diagnostic

/-- How diagnostics show a page request. -/
def Page.Request.diagnostic (request : Page.Request) : String :=
  let position := match request.position with
    | .offset rows => "Offset(" ++ Decimal.natText rows.toNat ++ ")"
    | .index pages => "Index(" ++ Decimal.natText pages.toNat ++ ")"
  "PaginationRequest \x7b mode: " ++ request.mode.diagnostic ++ ", limit: " ++
    Decimal.natText request.limit.toNat ++ ", position: " ++ position ++ ", ordering_field: " ++
    Text.diagnosticText request.orderingField ++ ", after: " ++
    optionDiagnostic (request.after.map Param.fullDiagnostic) ++ " \x7d"

/-- How diagnostics show an operation. -/
def BatchOperation.diagnostic : BatchOperation → String
  | .data request => "Data(" ++ request.diagnostic ++ ")"
  | .columns => "Columns"
  | .foreignKeys => "ForeignKeys"
  | .triggers => "Triggers"
  | .definition => "SqlDefinition"

/-- A batch over a list of tables, and what batches have found so far. -/
structure Batch where
  tables : List String
  phase : BatchPhase
  /-- Collected since the last beginning. -/
  queued : List BatchOperation
  /-- Sealed by the last end and not yet run with success. -/
  sealed : Option (List BatchOperation)
  /-- The last batch that was run asked for nothing. -/
  lastEmpty : Bool
  results : MetadataMap
deriving Repr

namespace Batch

/-- A batch over some tables, which has not begun. It takes a list of names of which none is
blank, and a handle that holds a connection. -/
def start (handle : Handle) (tables : List String) : Except Error Batch :=
  if tables.isEmpty then .error (.configuration "table list must not be empty")
  else if tables.any Text.isBlankText then
    .error (.configuration "table names must not be empty")
  else if handle.connection.isNone then
    .error (.configuration "foreach requires an open connection")
  else .ok ⟨tables, .notStarted, [], none, false, .empty⟩

/-- Begin to collect; what was collected before and not sealed is gone. -/
def begin (batch : Batch) : Except Error Batch :=
  if batch.phase = .collecting then .error (.invalidState "foreach batch already started")
  else .ok { batch with phase := .collecting, queued := [] }

/-- Seal what was collected. -/
def finish (batch : Batch) : Except Error Batch :=
  if batch.phase = .collecting then
    .ok { batch with phase := .closed, sealed := some batch.queued, queued := [] }
  else .error (.invalidState ("cannot end a foreach batch that is " ++ batch.phase.text))

/-- Collect one more operation. -/
def push (batch : Batch) (operation : BatchOperation) : Except Error Batch :=
  if batch.phase = .collecting then .ok { batch with queued := batch.queued ++ [operation] }
  else
    .error (.invalidState ("cannot queue " ++ operation.diagnostic ++
      " while the foreach batch is " ++ batch.phase.text))

/-- What an operation finds out about a table, written over what was known. -/
def perform (operation : BatchOperation) (known : TableMetadata) (table : String) :
    Action TableMetadata :=
  match operation with
  | .data request => do return { known with data := some (← Handle.queryPage table request) }
  | .columns => do return { known with columns := some (← Handle.columns table) }
  | .foreignKeys => do return { known with foreignKeys := some (← Handle.foreignKeys table) }
  | .triggers => do return { known with triggers := some (← Handle.triggers table) }
  | .definition => do return { known with definition := some (← Handle.tableDefinition table) }

/-- What operations find out about a table, in their order. -/
def performAll (table : String) : List BatchOperation → TableMetadata → Action TableMetadata
  | [], known => return known
  | operation :: rest, known => do
    performAll table rest (← perform operation known table)

/-- What operations find out about tables, table by table. A table that is listed twice is asked
twice. -/
def runTables (operations : List BatchOperation) :
    List String → MetadataMap → Action MetadataMap
  | [], found => return found
  | table :: rest, found => do
    let known := (found.get? table).getD (.unasked table)
    let asked ← performAll table operations known
    runTables operations rest (found.insert table asked)

/-- What sealed operations find out; no operation finds no table. -/
def run (tables : List String) (operations : List BatchOperation) : Action MetadataMap :=
  if operations.isEmpty then return .empty else runTables operations tables .empty

/-- The fields that were asked for replace those known before. -/
def overlay (known found : TableMetadata) : TableMetadata where
  tableName := known.tableName
  data := found.data.or known.data
  columns := found.columns.or known.columns
  foreignKeys := found.foreignKeys.or known.foreignKeys
  triggers := found.triggers.or known.triggers
  definition := found.definition.or known.definition

/-- The results with what a batch has found laid over them. -/
def merge (results found : MetadataMap) : MetadataMap :=
  found.entries.foldl
    (fun merged entry =>
      merged.insert entry.1 (overlay ((merged.get? entry.1).getD (.unasked entry.1)) entry.2))
    results

/-- The answer of a batch without sealed operations: nothing where the last one was empty. -/
def answer (batch : Batch) : Option MetadataMap :=
  if batch.lastEmpty then none else some batch.results

/-- What materializing gives: a step of the handle, and the batch afterwards. -/
structure Materialized where
  step : Step (Option MetadataMap)
  batch : Batch

/-- Run the sealed operations, if there are any. -/
def materialize (batch : Batch) (driver : Driver) (handle : Handle) : Materialized :=
  if batch.phase ≠ .closed then
    ⟨⟨.error (.invalidState ("foreach results are not available while the batch is " ++
      batch.phase.text)), [], handle⟩, batch⟩
  else
    match batch.sealed with
    | none => ⟨⟨.ok batch.answer, [], handle⟩, batch⟩
    | some operations =>
      let step := run batch.tables operations driver handle
      match step.result with
      | .error error => ⟨⟨.error error, step.calls, step.handle⟩, batch⟩
      | .ok found =>
        let after : Batch := { batch with
          sealed := none
          lastEmpty := operations.isEmpty
          results := merge batch.results found }
        ⟨⟨.ok after.answer, step.calls, step.handle⟩, after⟩

end Batch

end SqlAccess
