import SqlAccess.Driver.Unpopulated
import SqlAccess.Proofs.Batch.Harvest

/-!
# Results are overlays

Main statement: after any calls to an iteration, on any driver, the results hold the listed
tables once a batch that asks for something has succeeded, and for each table and kind of fact
they hold the last finding of the latest harvest that asked for that kind, or nothing where no
harvest did. A finding that is empty, and a definition that was found to be missing, is a finding
like any other.
-/

namespace SqlAccess

/-- True when a batch asked for a kind of fact. -/
def Harvest.asks (harvest : Harvest) (kind : FactKind) : Bool :=
  harvest.operations.any fun operation => operation.kind = kind

/-- What the latest harvest that asked for a kind found last about a table. -/
def latest? (history : List Harvest) (kind : FactKind) (table : String) : Option kind.Value :=
  (history.reverse.find? fun harvest => harvest.asks kind).bind fun harvest =>
    Finding.last? harvest.findings kind table

/-- Results are the overlay of the harvests of a history. -/
structure Overlaid (tables : List String) (history : List Harvest) (results : MetadataMap) :
    Prop where
  /-- The tables are those that are listed, once a batch that asks for something has succeeded;
  before that there is none. -/
  listed : ∀ name, name ∈ results.entries.map (·.1) ↔
    name ∈ tables ∧ ∃ harvest ∈ history, harvest.operations ≠ []
  /-- Every table is under its own name. -/
  named : ∀ entry ∈ results.entries, entry.2.tableName = entry.1
  /-- Every field is from the latest harvest that asked for it. -/
  fields : ∀ entry ∈ results.entries, ∀ kind,
    entry.2.field kind = latest? history kind entry.1
  /-- A field is absent exactly when no harvest asked for it. -/
  absent : ∀ entry ∈ results.entries, ∀ kind,
    entry.2.field kind = none ↔ ∀ harvest ∈ history, harvest.asks kind = false

namespace Batch

/-- Laying facts over others takes, for each kind, the newer one if there is one. -/
theorem field_overlay (known found : TableMetadata) (kind : FactKind) :
    (overlay known found).field kind = (found.field kind).or (known.field kind) := by
  cases kind <;> rfl

/-- Laying nothing over facts leaves them. -/
theorem overlay_unasked (known : TableMetadata) (name : String) :
    overlay known (.unasked name) = known := by
  simp [overlay, TableMetadata.unasked]

/-- The name of an overlay is that of the facts below. -/
theorem table_name_overlay (known found : TableMetadata) :
    (overlay known found).tableName = known.tableName := rfl

/-- One more table laid over results. -/
def layOver (results : MetadataMap) (entry : String × TableMetadata) : MetadataMap :=
  results.insert entry.1 (overlay (results.known entry.1) entry.2)

/-- Merging lays the tables of a batch over the results one by one. -/
theorem merge_eq_foldl (results found : MetadataMap) :
    merge results found = found.entries.foldl layOver results := rfl

/-- After tables have been laid over results, each name has its own table over what was known.

The names are in order, so that no later table has the name of an earlier one. -/
theorem known_foldl_lay_over (entries : List (String × TableMetadata))
    (sorted : entries.Pairwise fun earlier later => earlier.1 < later.1) (results : MetadataMap)
    (name : String) :
    (entries.foldl layOver results).known name =
      overlay (results.known name)
        (((entries.find? fun entry => entry.1 == name).map (·.2)).getD (.unasked name)) := by
  induction entries generalizing results with
  | nil => simp [overlay_unasked]
  | cons first rest inductionHypothesis =>
    obtain ⟨firstLeast, restSorted⟩ := List.pairwise_cons.mp sorted
    rw [List.foldl_cons, inductionHypothesis restSorted]
    by_cases here : first.1 = name
    · have elsewhere : (rest.find? fun entry => entry.1 == name) = none := by
        rw [List.find?_eq_none]
        intro later member same
        have before : first.1 < later.1 := firstLeast later member
        rw [here, beq_iff_eq.mp same] at before
        exact String.lt_irrefl name before
      subst here
      simp [elsewhere, overlay_unasked, layOver, MetadataMap.known_insert_self]
    · have untouched : (layOver results first).known name = results.known name := by
        simp [layOver, MetadataMap.known, MetadataMap.get?_insert, Ne.symm here]
      rw [untouched, List.find?_cons_of_neg (by simpa using here)]

/-- What is known after a merge is what the batch found over what was known. -/
theorem known_merge (results found : MetadataMap) (name : String) :
    (merge results found).known name = overlay (results.known name) (found.known name) :=
  known_foldl_lay_over found.entries found.sorted results name

/-- After tables have been laid over results, these names are there too. -/
theorem is_some_foldl_lay_over (entries : List (String × TableMetadata)) (results : MetadataMap)
    (name : String) :
    ((entries.foldl layOver results).get? name).isSome = true ↔
      (∃ entry ∈ entries, entry.1 = name) ∨ (results.get? name).isSome = true := by
  induction entries generalizing results with
  | nil => simp
  | cons first rest inductionHypothesis =>
    have here : ((layOver results first).get? name).isSome = true ↔
        first.1 = name ∨ (results.get? name).isSome = true := by
      by_cases about : name = first.1
      · simp [layOver, MetadataMap.get?_insert, about]
      · simp [layOver, MetadataMap.get?_insert, about, Ne.symm about]
    rw [List.foldl_cons, inductionHypothesis, here]
    simp only [List.mem_cons, exists_eq_or_imp]
    rw [or_left_comm, or_assoc]

/-- The tables of a merge are those of the results and those of the batch. -/
theorem is_some_merge (results found : MetadataMap) (name : String) :
    ((merge results found).get? name).isSome = true ↔
      (found.get? name).isSome = true ∨ (results.get? name).isSome = true := by
  rw [merge_eq_foldl, is_some_foldl_lay_over, ← List.mem_map, MetadataMap.mem_names]

/-- The tasks of a batch are all its operations on all its tables. -/
theorem mem_schedule_kinds (tables : List String) (operations : List BatchOperation)
    (table : String) (kind : FactKind) :
    (table, kind) ∈ (schedule tables operations).map (fun task => (task.1, task.2.kind)) ↔
      table ∈ tables ∧ ∃ operation ∈ operations, operation.kind = kind := by
  constructor
  · intro member
    obtain ⟨⟨listed, operation⟩, scheduled, same⟩ := List.mem_map.mp member
    cases same
    obtain ⟨other, inTables, task⟩ := List.mem_flatMap.mp scheduled
    obtain ⟨asked, inOperations, sameTask⟩ := List.mem_map.mp task
    cases sameTask
    exact ⟨inTables, operation, inOperations, rfl⟩
  · rintro ⟨inTables, operation, inOperations, rfl⟩
    have scheduled : (table, operation) ∈ schedule tables operations :=
      List.mem_flatMap.mpr
        ⟨table, inTables, List.mem_map.mpr ⟨operation, inOperations, rfl⟩⟩
    exact List.mem_map.mpr ⟨(table, operation), scheduled, rfl⟩

end Batch

namespace Harvest.Complete

variable {tables : List String} {harvest : Harvest}

/-- A complete harvest has a finding of each kind it asked for about each listed table, and no
other. -/
theorem last?_is_some (complete : harvest.Complete tables) (kind : FactKind) (table : String) :
    (Finding.last? harvest.findings kind table).isSome = true ↔
      table ∈ tables ∧ harvest.asks kind = true := by
  rw [Finding.last?_is_some, complete, Batch.mem_schedule_kinds]
  simp [asks]

/-- A complete harvest finds something about a table when the table is listed and something was
asked. -/
theorem finds (complete : harvest.Complete tables) (table : String) :
    (∃ finding ∈ harvest.findings, finding.table = table) ↔
      table ∈ tables ∧ harvest.operations ≠ [] := by
  constructor
  · rintro ⟨finding, member, rfl⟩
    have found : (finding.table, finding.kind) ∈
        harvest.findings.map fun finding => (finding.table, finding.kind) :=
      List.mem_map.mpr ⟨finding, member, rfl⟩
    rw [complete, Batch.mem_schedule_kinds] at found
    obtain ⟨inTables, operation, inOperations, _⟩ := found
    exact ⟨inTables, List.ne_nil_of_mem inOperations⟩
  · rintro ⟨inTables, asked⟩
    obtain ⟨operation, inOperations⟩ := List.exists_mem_of_ne_nil _ asked
    have found : (table, operation.kind) ∈
        harvest.findings.map fun finding => (finding.table, finding.kind) := by
      rw [complete, Batch.mem_schedule_kinds]
      exact ⟨inTables, operation, inOperations, rfl⟩
    obtain ⟨finding, member, same⟩ := List.mem_map.mp found
    exact ⟨finding, member, congrArg Prod.fst same⟩

end Harvest.Complete

/-- The latest harvest is looked at first. -/
theorem latest?_append (history : List Harvest) (harvest : Harvest) (kind : FactKind)
    (table : String) :
    latest? (history ++ [harvest]) kind table =
      if harvest.asks kind then Finding.last? harvest.findings kind table
      else latest? history kind table := by
  cases asked : harvest.asks kind <;> simp [latest?, asked]

/-- What holds of results between two calls, stated through what they know of each table. -/
structure Keeps (tables : List String) (history : List Harvest) (results : MetadataMap) : Prop where
  present : ∀ name, (results.get? name).isSome = true ↔
    name ∈ tables ∧ ∃ harvest ∈ history, harvest.operations ≠ []
  named : ∀ name, (results.known name).tableName = name
  fields : ∀ name ∈ tables, ∀ kind,
    (results.known name).field kind = latest? history kind name
  complete : ∀ harvest ∈ history, harvest.Complete tables

/-- Before the first call there is nothing. -/
theorem Keeps.empty (tables : List String) : Keeps tables [] .empty where
  present name := by simp
  named name := rfl
  fields name _ kind := by cases kind <;> rfl
  complete _ impossible := absurd impossible List.not_mem_nil

/-- A batch that succeeds lays its harvest over the results. -/
theorem Keeps.harvested {tables : List String} {history : List Harvest} {results : MetadataMap}
    (keeps : Keeps tables history results) {harvest : Harvest}
    (complete : harvest.Complete tables) :
    Keeps tables (history ++ [harvest])
      (Batch.merge results (MetadataMap.empty.gather harvest.findings)) where
  present name := by
    rw [Batch.is_some_merge, MetadataMap.is_some_gather, complete.finds, keeps.present]
    simp only [MetadataMap.get?_empty, Option.isSome_none, Bool.false_eq_true, or_false,
      List.mem_append, List.mem_singleton]
    constructor
    · rintro (⟨listed, asked⟩ | ⟨listed, earlier, member, asked⟩)
      · exact ⟨listed, harvest, Or.inr rfl, asked⟩
      · exact ⟨listed, earlier, Or.inl member, asked⟩
    · rintro ⟨listed, earlier, member | rfl, asked⟩
      · exact Or.inr ⟨listed, earlier, member, asked⟩
      · exact Or.inl ⟨listed, asked⟩
  named name := by
    rw [Batch.known_merge, Batch.table_name_overlay]
    exact keeps.named name
  fields name listed kind := by
    rw [Batch.known_merge, Batch.field_overlay, MetadataMap.field_gather,
      MetadataMap.field_known_empty, Option.or_none, keeps.fields name listed kind, latest?_append]
    have found := complete.last?_is_some kind name
    cases asked : harvest.asks kind with
    | true =>
      obtain ⟨value, last⟩ := Option.isSome_iff_exists.mp (found.mpr ⟨listed, asked⟩)
      rw [last]
      rfl
    | false =>
      have nothing : Finding.last? harvest.findings kind name = none := by
        rw [← Option.not_isSome_iff_eq_none, found, asked]
        exact fun both => Bool.noConfusion both.2
      rw [nothing]
      rfl
  complete other member := by
    rcases List.mem_append.mp member with earlier | last
    · exact keeps.complete other earlier
    · rw [List.mem_singleton.mp last]
      exact complete

/-- About a listed table nothing of a kind was found only where no harvest asked for it. -/
theorem latest?_eq_none {tables : List String} {history : List Harvest}
    (complete : ∀ harvest ∈ history, harvest.Complete tables) {table : String}
    (listed : table ∈ tables) (kind : FactKind) :
    latest? history kind table = none ↔ ∀ harvest ∈ history, harvest.asks kind = false := by
  unfold latest?
  cases newest : history.reverse.find? fun harvest => harvest.asks kind with
  | none =>
    rw [List.find?_eq_none] at newest
    refine iff_of_true rfl fun harvest member => ?_
    exact Bool.eq_false_iff.mpr (newest harvest (List.mem_reverse.mpr member))
  | some harvest =>
    have member : harvest ∈ history := List.mem_reverse.mp (List.mem_of_find?_eq_some newest)
    have asked : harvest.asks kind = true := by simpa using List.find?_some newest
    have found := ((complete harvest member).last?_is_some kind table).mpr ⟨listed, asked⟩
    refine iff_of_false ?_ ?_
    · intro nothing
      rw [Option.bind_some] at nothing
      rw [nothing] at found
      exact Bool.noConfusion found
    · intro unasked
      exact Bool.noConfusion (asked.symm.trans (unasked harvest member))

/-- What is kept is the overlay of the history. -/
theorem Keeps.overlaid {tables : List String} {history : List Harvest} {results : MetadataMap}
    (keeps : Keeps tables history results) : Overlaid tables history results := by
  have listed (entry : String × TableMetadata) (member : entry ∈ results.entries) :
      entry.1 ∈ tables := by
    have named : entry.1 ∈ results.entries.map (·.1) := List.mem_map_of_mem member
    exact ((keeps.present entry.1).mp ((results.mem_names entry.1).mp named)).1
  refine ⟨?_, ?_, ?_, ?_⟩
  · intro name
    rw [results.mem_names, keeps.present]
  · intro entry member
    rw [← results.known_of_mem member]
    exact keeps.named entry.1
  · intro entry member kind
    rw [← results.known_of_mem member]
    exact keeps.fields entry.1 (listed entry member) kind
  · intro entry member kind
    rw [← results.known_of_mem member, keeps.fields entry.1 (listed entry member) kind]
    exact latest?_eq_none keeps.complete (listed entry member) kind

/-- Harvests that are laid over results one after another are the overlay of the longer
history. -/
theorem Keeps.foldl {tables : List String} {past : List Harvest} {results : MetadataMap}
    (keeps : Keeps tables past results) (history : List Harvest)
    (complete : ∀ harvest ∈ history, harvest.Complete tables) :
    Keeps tables (past ++ history) (history.foldl Harvest.laidOver results) := by
  induction history generalizing past results with
  | nil =>
    rw [List.append_nil]
    exact keeps
  | cons harvest rest inductionHypothesis =>
    have now := keeps.harvested (complete harvest List.mem_cons_self)
    have next := inductionHypothesis now fun later member =>
      complete later (List.mem_cons_of_mem harvest member)
    rw [List.append_assoc, List.singleton_append] at next
    exact next

/-- An iteration starts with nothing, where a connection is held and no name is blank. -/
theorem Batch.start_ok {handle : Handle} {tables : List String}
    (connected : handle.connection.isSome = true) (listed : tables ≠ [])
    (named : ∀ table ∈ tables, Text.isBlankText table = false) :
    start handle tables = .ok ⟨tables, .notStarted, [], none, false, .empty⟩ := by
  have someListed : tables.isEmpty = false := List.isEmpty_eq_false_iff.mpr listed
  have noneBlank : tables.any Text.isBlankText = false := by
    rw [List.any_eq_false]
    intro table member
    rw [named table member]
    exact Bool.false_ne_true
  have held : handle.connection.isNone = false := by
    rw [← Option.not_isSome, connected]
    rfl
  simp only [start, someListed, noneBlank, held, Bool.false_eq_true, if_false]

/-- Results are the overlay of the batches that succeeded: whatever tables a handle that holds a
connection is asked to iterate over, with whatever calls, and whatever the driver answers at each
of them. The harvests ask the driver for the same as the iteration.

Proof: the iteration and the harvests run over the same calls, so that the results are the harvests
laid over one another. What is kept of the history while they are laid, one harvest after the other,
is the overlay. -/
theorem iterate_overlaid (handle : Handle) (tables : List String) (driver : Driver)
    (calls : List BatchCall) (connected : handle.connection.isSome = true)
    (listed : tables ≠ []) (named : ∀ table ∈ tables, Text.isBlankText table = false) :
    ∃ batch, Batch.start handle tables = .ok batch ∧
      ∃ final history,
        (batch.iterate calls driver handle).result = .ok final ∧
        (harvests tables calls (.resting none) driver handle).result = .ok history ∧
        (harvests tables calls (.resting none) driver handle).calls =
          (batch.iterate calls driver handle).calls ∧
        Overlaid tables history final.results := by
  obtain ⟨history, harvested, complete⟩ :=
    harvests_complete tables calls (.resting none) driver handle
  obtain ⟨final, answered, laid, sameCalls⟩ := Batch.iterate_results calls
    ⟨tables, .notStarted, [], none, false, .empty⟩ harvested
  refine ⟨_, Batch.start_ok connected listed named, final, history, answered, harvested,
    sameCalls, ?_⟩
  have kept := (Keeps.empty tables).foldl history complete
  rw [laid]
  exact kept.overlaid

/-- A table that is listed twice, on a held connection to an engine that has no tables. -/
theorem iterate_overlaid_listed_twice :
    let handle : Handle := ⟨.sqlite, "sqlite:file.db", some 1, false, 1⟩
    let calls : List BatchCall :=
      [.begin, .push .columns, .push .definition, .finish, .materialize]
    let driver := Driver.unpopulated .sqlite
    ∃ batch, Batch.start handle ["a", "a"] = .ok batch ∧
      ∃ final history,
        (batch.iterate calls driver handle).result = .ok final ∧
        (harvests ["a", "a"] calls (.resting none) driver handle).result = .ok history ∧
        (harvests ["a", "a"] calls (.resting none) driver handle).calls =
          (batch.iterate calls driver handle).calls ∧
        Overlaid ["a", "a"] history final.results :=
  iterate_overlaid _ _ _ _ rfl (by decide) (by decide)

/-- A definition that was found to be missing is told apart from one that was not asked for. -/
example :
    ((Batch.iterate [.begin, .push .columns, .push .definition, .finish, .materialize]
        ⟨["a", "a"], .notStarted, [], none, false, .empty⟩ (.unpopulated .sqlite)
        ⟨.sqlite, "sqlite:file.db", some 1, false, 1⟩).result.map fun final =>
      final.results.entries.map fun entry =>
        (entry.1, entry.2.columns, entry.2.triggers, entry.2.definition)) =
      .ok [("a", some [], none, some none)] := by
  rfl

end SqlAccess
