import SqlAccess.Proofs.Batch.Survey
import SqlAccess.Proofs.Calendar.Instants
import SqlAccess.Proofs.Json.Records

/-!
# Results read back

The results of batches are serialized and read again by another party. Descriptors are read field by
field; a map is read by writing the tables under their names, and as the names come in order each
table is put behind those before it. Main statement: the map that is read is the map that was
written, and of each fact it can be seen in the written form whether it was not asked for, asked for
and empty, or asked for and there.
-/

namespace SqlAccess

/-- Every serialized name reads back as its logical type. -/
@[simp]
theorem LogicalType.of_json?_name (logical : LogicalType) :
    ofJson? (.string logical.name) = some logical := of_name?_name logical

/-- Columns read back. -/
@[simp]
theorem Column.of_json?_to_json (column : Column) : ofJson? column.toJson = some column := by
  simp [toJson, ofJson?, Function.comp_def]

/-- References read back. -/
@[simp]
theorem ForeignKey.of_json?_to_json (key : ForeignKey) : ofJson? key.toJson = some key := by
  simp [toJson, ofJson?]

/-- The instant of a serialized trigger reads back. -/
@[simp]
theorem Trigger.instant?_text (instant : Calendar.Instant) :
    instant? (.string (String.ofList instant.text)) = some instant := by
  simp [instant?, Calendar.Read.relaxed_instant?_text]

/-- Triggers read back. -/
@[simp]
theorem Trigger.of_json?_to_json (trigger : Trigger) : ofJson? trigger.toJson = some trigger := by
  simp [toJson, ofJson?, Function.comp_def]

/-- Rows read back, for they are objects as they stand. -/
@[simp]
theorem Row.list?_object (rows : List Row) :
    Json.list? Json.fields? (.array (rows.map .object)) = some rows := by
  have reads (row : Row) : Json.fields? (.object row) = some row := rfl
  exact Json.list?_array reads rows

/-- The metadata of a table reads back. -/
theorem TableMetadata.of_json?_to_json (table : TableMetadata) :
    ofJson? table.toJson = some table := by
  simp [toJson, ofJson?, listJson, Function.comp_def]

/-- The name of the field in which a fact of a kind is written. -/
def FactKind.fieldName : FactKind → String
  | .data => "data"
  | .columns => "columns"
  | .foreignKeys => "foreign_keys"
  | .triggers => "triggers"
  | .definition => "sql_definition"

/-- A fact as it is written in its field. -/
def FactKind.toJson : (kind : FactKind) → kind.Value → Json
  | .data, found => TableMetadata.listJson Json.object found
  | .columns, found => TableMetadata.listJson Column.toJson found
  | .foreignKeys, found => TableMetadata.listJson ForeignKey.toJson found
  | .triggers, found => TableMetadata.listJson Trigger.toJson found
  | .definition, found => Json.ofOption (Option.map Json.string found)

/-- What is known of a kind stands in the field of the kind. -/
theorem TableMetadata.get?_to_json (table : TableMetadata) (kind : FactKind) :
    table.toJson.get? kind.fieldName = (table.field kind).map kind.toJson := by
  cases kind <;> simp [toJson, FactKind.fieldName, field] <;> rfl

/-- True for a fact that there is nothing: an empty list, or a missing definition. -/
def FactKind.isNothing : (kind : FactKind) → kind.Value → Bool
  | .data, found => List.isEmpty found
  | .columns, found => List.isEmpty found
  | .foreignKeys, found => List.isEmpty found
  | .triggers, found => List.isEmpty found
  | .definition, found => Option.isNone found

/-- True for null and for an empty array. -/
def Json.isNothing : Json → Bool
  | .null => true
  | .array items => items.isEmpty
  | _ => false

/-- Null and empty arrays are written for nothing, and for nothing else. -/
theorem FactKind.is_nothing_to_json (kind : FactKind) (found : kind.Value) :
    (kind.toJson found).isNothing = kind.isNothing found := by
  cases kind with
  | data | columns | foreignKeys | triggers => exact List.isEmpty_map
  | definition => cases found <;> rfl

/-- What may be said of a kind of fact about a table: it was not asked for, there is nothing, or
there is something. -/
inductive FactState where
  | unasked
  | nothing
  | content
deriving DecidableEq, Repr

/-- What a value says, or the lack of one. -/
def FactState.of {α : Type} (isNothing : α → Bool) : Option α → FactState
  | none => .unasked
  | some value => if isNothing value then .nothing else .content

/-- How much is known of a kind. -/
def TableMetadata.state (table : TableMetadata) (kind : FactKind) : FactState :=
  FactState.of kind.isNothing (table.field kind)

/-- How much a serialized table says of a kind. -/
def FactKind.shownIn (kind : FactKind) (table : Json) : FactState :=
  FactState.of Json.isNothing (table.get? kind.fieldName)

/-- A serialized table says of every kind how much is known. -/
theorem FactKind.shown_in_to_json (kind : FactKind) (table : TableMetadata) :
    kind.shownIn table.toJson = table.state kind := by
  rw [shownIn, table.get?_to_json, TableMetadata.state]
  cases table.field kind with
  | none => rfl
  | some found => simp only [FactState.of, Option.map_some, kind.is_nothing_to_json]

namespace MetadataMap

/-- Maps with the same entries are the same. -/
theorem eq_of_entries {first second : MetadataMap} (same : first.entries = second.entries) :
    first = second := by
  cases first
  cases second
  congr

/-- A name after all others is written at the end. -/
theorem write_last {name : String} {entries : List (String × TableMetadata)}
    (last : ∀ entry ∈ entries, entry.1 < name) (table : TableMetadata) :
    write name table entries = entries ++ [(name, table)] := by
  induction entries with
  | nil => rfl
  | cons first rest inductionHypothesis =>
    obtain ⟨before, others⟩ := List.forall_mem_cons.mp last
    rw [write, if_neg (String.lt_asymm before), if_neg (Std.ne_of_lt before),
      inductionHypothesis others, List.cons_append]

/-- Tables that come in order after those of a map stand behind them. -/
theorem entries_foldl_insert (pairs : List (String × TableMetadata)) (map : MetadataMap)
    (sorted : (map.entries ++ pairs).Pairwise fun earlier later => earlier.1 < later.1) :
    (pairs.foldl (fun map pair => map.insert pair.1 pair.2) map).entries =
      map.entries ++ pairs := by
  induction pairs generalizing map with
  | nil => simp
  | cons pair rest inductionHypothesis =>
    have last : ∀ entry ∈ map.entries, entry.1 < pair.1 := fun entry member =>
      (List.pairwise_append.mp sorted).2.2 entry member pair List.mem_cons_self
    have written : (map.insert pair.1 pair.2).entries = map.entries ++ [pair] :=
      write_last last pair.2
    rw [List.append_cons, ← written] at sorted ⊢
    exact inductionHypothesis _ sorted

/-- The map of its own entries. -/
theorem of_pairs_entries (map : MetadataMap) : ofPairs map.entries = map := by
  have same : (ofPairs map.entries).entries = map.entries :=
    entries_foldl_insert map.entries empty map.sorted
  exact eq_of_entries same

/-- Maps read back. -/
theorem of_json?_to_json (map : MetadataMap) : ofJson? map.toJson = some map := by
  have reads (entry : String × TableMetadata) :
      (TableMetadata.ofJson? entry.2.toJson).map (fun table => (entry.1, table)) = some entry := by
    rw [TableMetadata.of_json?_to_json, Option.map_some]
  have pairs : (map.entries.map fun entry => (entry.1, entry.2.toJson)).mapM (fun field =>
      (TableMetadata.ofJson? field.2).map fun table => (field.1, table)) = some map.entries :=
    Json.mapm_map reads map.entries
  simp only [ofJson?, toJson, Json.fields?, pairs, of_pairs_entries, Option.bind_eq_bind,
    Option.bind_some, Option.pure_def]

/-- The table under a name is written under the name. -/
theorem get?_to_json (map : MetadataMap) (name : String) :
    map.toJson.get? name = (map.get? name).map TableMetadata.toJson := by
  simp [toJson, get?, Fields.get?, List.find?_map, Function.comp_def]

/-- What is read from the serialized results of batches is the results. In the written form it is
told apart of every table and every kind of fact whether it was not asked for, there was nothing, or
there was something.

Proof: the map is read entry by entry, and each field of an entry comes back by the law of its
codec. For the three states, the entry of a table is looked up in the written form, where a field
that was not asked for is left out and one that found nothing is null. -/
theorem reread_told_apart (map : MetadataMap) :
    ofJson? map.toJson = some map ∧
      ∀ (name : String) (kind : FactKind),
        ((map.toJson.get? name).map kind.shownIn).getD .unasked = (map.known name).state kind := by
  refine ⟨map.of_json?_to_json, fun name kind => ?_⟩
  rw [map.get?_to_json, known]
  cases map.get? name with
  | none => cases kind <;> rfl
  | some table => exact kind.shown_in_to_json table

end MetadataMap

end SqlAccess
