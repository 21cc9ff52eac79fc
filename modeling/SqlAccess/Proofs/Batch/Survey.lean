import SqlAccess.Batch

/-!
# Surveys

A survey runs operations on tables one after another and only notes down what each one returned.
Nothing is merged and nothing is overwritten. Main statements: running a batch is making its
survey and gathering the findings into a map, one at a time, so the two ask the same of the
driver and fail alike; and what has been gathered about a table is, for each kind of fact, the
last finding of that kind about it.
-/

namespace SqlAccess

/-- The kinds of facts about a table. -/
inductive FactKind where
  | data
  | columns
  | foreignKeys
  | triggers
  | definition
deriving DecidableEq, Repr

/-- A fact of a kind. A definition may be found to be missing. -/
def FactKind.Value : FactKind → Type
  | .data => List Row
  | .columns => List Column
  | .foreignKeys => List ForeignKey
  | .triggers => List Trigger
  | .definition => Option String

/-- The kind of fact that an operation finds out. -/
def BatchOperation.kind : BatchOperation → FactKind
  | .data _ => .data
  | .columns => .columns
  | .foreignKeys => .foreignKeys
  | .triggers => .triggers
  | .definition => .definition

/-- The operation of the handle that finds it out. -/
def BatchOperation.ask (operation : BatchOperation) (table : String) :
    Action operation.kind.Value :=
  match operation with
  | .data request => Handle.queryPage table request
  | .columns => Handle.columns table
  | .foreignKeys => Handle.foreignKeys table
  | .triggers => Handle.triggers table
  | .definition => Handle.tableDefinition table

/-- What an operation returned about a table. -/
structure Finding where
  table : String
  kind : FactKind
  value : kind.Value

/-- The finding, where it is of a kind and about a table. -/
def Finding.of? (finding : Finding) (kind : FactKind) (table : String) : Option kind.Value :=
  if same : finding.kind = kind then
    if finding.table = table then some (same ▸ finding.value) else none
  else none

/-- The last finding of a kind about a table. -/
def Finding.last? (findings : List Finding) (kind : FactKind) (table : String) :
    Option kind.Value :=
  findings.reverse.findSome? fun finding => finding.of? kind table

/-- What is known of a kind. -/
def TableMetadata.field (known : TableMetadata) : (kind : FactKind) → Option kind.Value
  | .data => known.data
  | .columns => known.columns
  | .foreignKeys => known.foreignKeys
  | .triggers => known.triggers
  | .definition => known.definition

/-- A finding written over what is known of its kind. -/
def TableMetadata.record (known : TableMetadata) : Finding → TableMetadata
  | ⟨_, .data, rows⟩ => { known with data := some rows }
  | ⟨_, .columns, columns⟩ => { known with columns := some columns }
  | ⟨_, .foreignKeys, foreignKeys⟩ => { known with foreignKeys := some foreignKeys }
  | ⟨_, .triggers, triggers⟩ => { known with triggers := some triggers }
  | ⟨_, .definition, definition⟩ => { known with definition := some definition }

/-- What a map knows of a table, which is nothing where the table is missing. -/
def MetadataMap.known (map : MetadataMap) (table : String) : TableMetadata :=
  (map.get? table).getD (.unasked table)

/-- The map with a finding in it. -/
def MetadataMap.put (map : MetadataMap) (finding : Finding) : MetadataMap :=
  map.insert finding.table ((map.known finding.table).record finding)

/-- The map with findings in it, the last one of a kind over those before it. -/
def MetadataMap.gather (map : MetadataMap) (findings : List Finding) : MetadataMap :=
  findings.foldl put map

namespace Batch

/-- Run operations on tables and note down what they return. The first failure ends the survey. -/
def survey : List (String × BatchOperation) → Action (List Finding)
  | [] => return []
  | (table, operation) :: rest => do
    let value ← operation.ask table
    let findings ← survey rest
    return ⟨table, operation.kind, value⟩ :: findings

/-- All operations on the first table, then all on the next one. -/
def schedule (tables : List String) (operations : List BatchOperation) :
    List (String × BatchOperation) :=
  tables.flatMap fun table => operations.map fun operation => (table, operation)

/-- What an operation of a batch writes is a finding. -/
theorem perform_eq_record (operation : BatchOperation) (known : TableMetadata) (table : String) :
    perform operation known table =
      operation.ask table >>= fun value =>
        pure (known.record ⟨table, operation.kind, value⟩) := by
  cases operation <;> rfl

/-- A survey in two parts. -/
theorem survey_append (first second : List (String × BatchOperation)) :
    survey (first ++ second) =
      survey first >>= fun earlier => survey second >>= fun later => pure (earlier ++ later) := by
  induction first with
  | nil => simp [survey]
  | cons task rest inductionHypothesis =>
    simp only [List.cons_append, survey, inductionHypothesis, bind_assoc, pure_bind]

/-- A survey that succeeds has a finding for every operation, in their order. -/
theorem survey_complete (tasks : List (String × BatchOperation)) {driver : Driver}
    {handle : Handle} {findings : List Finding}
    (surveyed : (survey tasks driver handle).result = .ok findings) :
    findings.map (fun finding => (finding.table, finding.kind)) =
      tasks.map fun task => (task.1, task.2.kind) := by
  induction tasks generalizing driver handle findings with
  | nil =>
    cases surveyed
    rfl
  | cons task rest inductionHypothesis =>
    obtain ⟨value, _, after⟩ := Action.and_then_ok surveyed
    obtain ⟨later, laterSurveyed, same⟩ := Action.and_then_ok after
    cases same
    simp only [List.map_cons, inductionHypothesis laterSurveyed]

end Batch

namespace MetadataMap

/-- A finding is known of the table it is about, and nothing else is changed. -/
theorem known_put (map : MetadataMap) (finding : Finding) (table : String) :
    (map.put finding).known table =
      if table = finding.table then (map.known table).record finding else map.known table := by
  by_cases about : table = finding.table
  · simp [put, known, get?_insert, about]
  · simp [put, known, get?_insert, about]

/-- What was written under a name is known. -/
theorem known_insert_self (map : MetadataMap) (name : String) (table : TableMetadata) :
    (map.insert name table).known name = table := by
  simp [known, get?_insert]

/-- An entry is what is known of its table. -/
theorem known_of_mem (map : MetadataMap) {entry : String × TableMetadata}
    (member : entry ∈ map.entries) : map.known entry.1 = entry.2 := by
  rw [known, (map.mem_entries entry.1 entry.2).mp member]
  rfl

/-- Nothing is known in the empty map. -/
theorem field_known_empty (table : String) (kind : FactKind) :
    (empty.known table).field kind = none := by
  cases kind <;> rfl

/-- A finding over another one about the same table takes one writing. -/
theorem insert_put (map : MetadataMap) (finding : Finding) (table : TableMetadata) :
    (map.put finding).insert finding.table table = map.insert finding.table table :=
  insert_insert map finding.table _ table

end MetadataMap

/-- A finding replaces what was known of its kind, and nothing else. -/
theorem TableMetadata.field_record (known : TableMetadata) (finding : Finding) (kind : FactKind) :
    (known.record finding).field kind =
      (finding.of? kind finding.table).or (known.field kind) := by
  obtain ⟨table, found, value⟩ := finding
  by_cases same : found = kind
  · subst same
    have itself : (⟨table, found, value⟩ : Finding).of? found table = some value := by
      simp [Finding.of?]
    rw [itself]
    cases found <;> rfl
  · have other : (⟨table, found, value⟩ : Finding).of? kind table = none := by
      simp [Finding.of?, same]
    rw [other]
    cases found <;> cases kind <;> first | rfl | exact absurd rfl same

/-- A finding about another table is none about this one. -/
theorem Finding.of?_of_ne {finding : Finding} {table : String} (kind : FactKind)
    (other : table ≠ finding.table) : finding.of? kind table = none := by
  simp [of?, Ne.symm other]

/-- Later findings come before the first one. -/
theorem Finding.last?_cons (first : Finding) (rest : List Finding) (kind : FactKind)
    (table : String) :
    last? (first :: rest) kind table = (last? rest kind table).or (first.of? kind table) := by
  simp only [last?, List.reverse_cons, List.findSome?_append, List.findSome?_singleton]

/-- There is a finding of a kind about a table exactly when one of the findings is. -/
theorem Finding.last?_is_some (findings : List Finding) (kind : FactKind) (table : String) :
    (last? findings kind table).isSome = true ↔
      (table, kind) ∈ findings.map fun finding => (finding.table, finding.kind) := by
  induction findings with
  | nil => simp [last?]
  | cons first rest inductionHypothesis =>
    have here :
        (first.of? kind table).isSome = true ↔ (table, kind) = (first.table, first.kind) := by
      by_cases sameKind : first.kind = kind
      · by_cases sameTable : first.table = table
        · simp [of?, sameKind, sameTable]
        · simp [of?, sameKind, sameTable, Ne.symm sameTable]
      · simp [of?, sameKind, Ne.symm sameKind]
    rw [last?_cons, Option.isSome_or, Bool.or_eq_true, inductionHypothesis, here, List.map_cons,
      List.mem_cons, or_comm]

namespace MetadataMap

/-- What has been gathered about a table is the last finding of each kind, over what was known. -/
theorem field_gather (map : MetadataMap) (findings : List Finding) (kind : FactKind)
    (table : String) :
    ((map.gather findings).known table).field kind =
      (Finding.last? findings kind table).or ((map.known table).field kind) := by
  induction findings generalizing map with
  | nil => rfl
  | cons finding rest inductionHypothesis =>
    have step := inductionHypothesis (map.put finding)
    rw [known_put] at step
    rw [gather, List.foldl_cons, ← gather, step, Finding.last?_cons, Option.or_assoc]
    by_cases about : table = finding.table
    · rw [if_pos about, TableMetadata.field_record, about]
    · rw [if_neg about, Finding.of?_of_ne kind about, Option.none_or]

/-- A table is in the map once a finding is about it. -/
theorem is_some_gather (map : MetadataMap) (findings : List Finding) (table : String) :
    ((map.gather findings).get? table).isSome = true ↔
      (∃ finding ∈ findings, finding.table = table) ∨ (map.get? table).isSome = true := by
  induction findings generalizing map with
  | nil => simp [gather]
  | cons finding rest inductionHypothesis =>
    have here : ((map.put finding).get? table).isSome = true ↔
        finding.table = table ∨ (map.get? table).isSome = true := by
      by_cases about : table = finding.table
      · simp [put, get?_insert, about]
      · simp [put, get?_insert, about, Ne.symm about]
    rw [gather, List.foldl_cons, ← gather, inductionHypothesis (map.put finding), here]
    simp only [List.mem_cons, exists_eq_or_imp]
    rw [or_left_comm, or_assoc]

end MetadataMap

namespace Batch

/-- What operations write about one table is what their findings write one at a time.

The induction is on the operations after the first one, since without any operation nothing is
written, not even the name of the table. The finding of the first operation is put into the map,
and the table as it is written then is what the others start from. -/
theorem perform_all_eq_gather (table : String) (operation : BatchOperation)
    (rest : List BatchOperation) (found : MetadataMap) :
    (performAll table (operation :: rest) (found.known table) >>= fun asked =>
        pure (found.insert table asked)) =
      survey ((operation :: rest).map fun operation => (table, operation)) >>= fun findings =>
        pure (found.gather findings) := by
  induction rest generalizing operation found with
  | nil =>
    simp only [performAll, perform_eq_record, List.map_cons, List.map_nil, survey, bind_assoc,
      pure_bind]
    rfl
  | cons next later inductionHypothesis =>
    have afterFirst (value : operation.kind.Value) :
        (performAll table (next :: later)
            ((found.known table).record ⟨table, operation.kind, value⟩) >>= fun asked =>
          pure (found.insert table asked)) =
        survey ((next :: later).map fun operation => (table, operation)) >>= fun findings =>
          pure (found.gather (⟨table, operation.kind, value⟩ :: findings)) := by
      have overwritten (asked : TableMetadata) :
          (found.put ⟨table, operation.kind, value⟩).insert table asked =
            found.insert table asked := found.insert_put ⟨table, operation.kind, value⟩ asked
      have step := inductionHypothesis next (found.put ⟨table, operation.kind, value⟩)
      rw [MetadataMap.known_put, if_pos rfl] at step
      simp only [overwritten] at step
      exact step
    rw [performAll, perform_eq_record, List.map_cons, survey]
    simp only [bind_assoc, pure_bind, afterFirst]

/-- What operations write about tables is what their findings write one at a time. -/
theorem run_tables_eq_gather (operation : BatchOperation) (rest : List BatchOperation)
    (tables : List String) (found : MetadataMap) :
    runTables (operation :: rest) tables found =
      survey (schedule tables (operation :: rest)) >>= fun findings =>
        pure (found.gather findings) := by
  induction tables generalizing found with
  | nil =>
    simp only [runTables, schedule, List.flatMap_nil, survey, pure_bind]
    rfl
  | cons table later inductionHypothesis =>
    have firstTable := perform_all_eq_gather table operation rest found
    calc runTables (operation :: rest) (table :: later) found
        = (performAll table (operation :: rest) (found.known table) >>= fun asked =>
            pure (found.insert table asked)) >>= runTables (operation :: rest) later := by
          simp only [bind_assoc, pure_bind]
          rfl
      _ = survey ((operation :: rest).map fun operation => (table, operation)) >>= fun earlier =>
            runTables (operation :: rest) later (found.gather earlier) := by
          rw [firstTable]
          simp only [bind_assoc, pure_bind]
      _ = survey (schedule (table :: later) (operation :: rest)) >>= fun findings =>
            pure (found.gather findings) := by
          simp only [inductionHypothesis, schedule, List.flatMap_cons, survey_append, bind_assoc,
            pure_bind, MetadataMap.gather, List.foldl_append]

/-- Running a batch is making its survey and gathering the findings. -/
theorem run_eq_gather (tables : List String) (operations : List BatchOperation) :
    run tables operations =
      survey (schedule tables operations) >>= fun findings =>
        pure (MetadataMap.empty.gather findings) := by
  cases operations with
  | nil =>
    have nothing : schedule tables [] = [] := by simp [schedule]
    simp only [run, nothing, survey, pure_bind]
    rfl
  | cons operation rest => exact run_tables_eq_gather operation rest tables .empty

end Batch

end SqlAccess
