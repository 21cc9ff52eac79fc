import SqlAccess.Calendar.Instant
import SqlAccess.Dialect
import SqlAccess.LogicalType
import SqlAccess.Row

/-!
# Table metadata

What the catalogs say about tables, in one shape for every dialect. The results of a batch
are kept per table; a field of such a result is absent until a batch has asked for it, so an
empty answer and no question are told apart.
-/

namespace SqlAccess

/-- A column of a table. -/
structure Column where
  name : String
  logicalType : LogicalType
  /-- The type in the dialect; for other types the name in the catalog. -/
  nativeType : String
  maxLength : Option Int64
  precision : Option Int32
  scale : Option Int32
  /-- A literal of the dialect, or an expression as the catalog has it. -/
  default : Option String
  isPrimaryKey : Bool
  isNullable : Bool
deriving DecidableEq, Repr

/-- A reference from a column to a column of another table. -/
structure ForeignKey where
  id : Int64
  constraintName : String
  fromColumn : String
  toTable : String
  toColumn : String
deriving DecidableEq, Repr

/-- A trigger of a table. Not every engine records when it was created. -/
structure Trigger where
  name : String
  schema : Option String
  catalog : Option String
  definition : String
  created : Option Calendar.Instant
deriving DecidableEq, Repr

/-- What batches have found out about a table. A definition that was asked for may still be
missing. -/
structure TableMetadata where
  tableName : String
  data : Option (List Row)
  columns : Option (List Column)
  foreignKeys : Option (List ForeignKey)
  triggers : Option (List Trigger)
  definition : Option (Option String)
deriving Repr

/-- A table of which nothing has been asked. -/
def TableMetadata.unasked (tableName : String) : TableMetadata :=
  ⟨tableName, none, none, none, none, none⟩

/-- Metadata under table names, in the order of the names. -/
structure MetadataMap where
  entries : List (String × TableMetadata)
  sorted : entries.Pairwise fun earlier later => earlier.1 < later.1
deriving Repr

namespace MetadataMap

/-- No table. -/
def empty : MetadataMap := ⟨[], List.Pairwise.nil⟩

instance : Inhabited MetadataMap := ⟨empty⟩

/-- Write under a name: in place when the name is there, else where the order wants it. -/
def write (name : String) (table : TableMetadata) :
    List (String × TableMetadata) → List (String × TableMetadata)
  | [] => [(name, table)]
  | entry :: rest =>
    if name < entry.1 then (name, table) :: entry :: rest
    else if entry.1 = name then (name, table) :: rest
    else entry :: write name table rest

/-- The names after writing. -/
theorem mem_write (name : String) (table : TableMetadata)
    (entries : List (String × TableMetadata)) (entry : String × TableMetadata)
    (member : entry ∈ write name table entries) : entry.1 = name ∨ entry ∈ entries := by
  induction entries with
  | nil => simp_all [write]
  | cons first rest inductionHypothesis =>
    unfold write at member
    split at member
    · rcases List.mem_cons.mp member with same | later
      · exact Or.inl (by rw [same])
      · exact Or.inr later
    · split at member
      · rcases List.mem_cons.mp member with same | later
        · exact Or.inl (by rw [same])
        · exact Or.inr (List.mem_cons_of_mem first later)
      · rcases List.mem_cons.mp member with same | later
        · exact Or.inr (by simp [same])
        · exact (inductionHypothesis later).imp_right (List.mem_cons_of_mem first)

/-- Writing keeps the order. -/
theorem sorted_write (name : String) (table : TableMetadata)
    (entries : List (String × TableMetadata))
    (sorted : entries.Pairwise fun earlier later => earlier.1 < later.1) :
    (write name table entries).Pairwise fun earlier later => earlier.1 < later.1 := by
  induction entries with
  | nil => simp [write]
  | cons first rest inductionHypothesis =>
    obtain ⟨firstLeast, restSorted⟩ := List.pairwise_cons.mp sorted
    unfold write
    split
    · rename_i before
      refine List.pairwise_cons.mpr ⟨fun later member => ?_, sorted⟩
      rcases List.mem_cons.mp member with rfl | inRest
      · exact before
      · exact String.lt_trans before (firstLeast later inRest)
    · split
      · rename_i _ same
        exact List.pairwise_cons.mpr
          ⟨fun later member => same ▸ firstLeast later member, restSorted⟩
      · rename_i notBefore different
        refine List.pairwise_cons.mpr ⟨fun later member => ?_, inductionHypothesis restSorted⟩
        rcases mem_write name table rest later member with same | inRest
        · rw [same]
          exact Std.lt_of_le_of_ne (String.not_lt.mp notBefore) different
        · exact firstLeast later inRest

/-- The map with a table written under a name. -/
def insert (map : MetadataMap) (name : String) (table : TableMetadata) : MetadataMap :=
  ⟨write name table map.entries, sorted_write name table map.entries map.sorted⟩

/-- The table under a name. -/
def get? (map : MetadataMap) (name : String) : Option TableMetadata :=
  (map.entries.find? fun entry => entry.1 == name).map (·.2)

/-- Nothing is under any name in the empty map. -/
@[simp]
theorem get?_empty (name : String) : empty.get? name = none := rfl

/-- What was written is under its name, and all else is where it was. -/
theorem get?_insert (map : MetadataMap) (name other : String) (table : TableMetadata) :
    (map.insert name table).get? other = if other = name then some table else map.get? other := by
  obtain ⟨entries, sorted⟩ := map
  simp only [insert, get?]
  clear sorted
  induction entries with
  | nil =>
    by_cases same : other = name
    · simp [write, same]
    · simp [write, same, Ne.symm same]
  | cons first rest inductionHypothesis =>
    unfold write
    split
    · by_cases same : other = name
      · simp [same]
      · simp [List.find?_cons, same, Ne.symm same]
    · split
      · rename_i _ replaced
        by_cases same : other = name
        · simp [same]
        · simp [same, Ne.symm same, replaced]
      · rename_i _ different
        by_cases here : first.1 = other
        · have elsewhere : other ≠ name := here ▸ different
          simp [here, elsewhere]
        · simpa [List.find?_cons, here] using inductionHypothesis

/-- Of two tables written under one name the second counts. -/
theorem insert_insert (map : MetadataMap) (name : String) (first second : TableMetadata) :
    (map.insert name first).insert name second = map.insert name second := by
  obtain ⟨entries, sorted⟩ := map
  simp only [insert, mk.injEq]
  clear sorted
  induction entries with
  | nil => simp [write]
  | cons entry rest inductionHypothesis =>
    by_cases before : name < entry.1
    · simp [write, before]
    · by_cases same : entry.1 = name
      · simp [write, same]
      · simp [write, before, same, inductionHypothesis]

/-- The entries are the tables that are found under their names. -/
theorem mem_entries (map : MetadataMap) (name : String) (table : TableMetadata) :
    (name, table) ∈ map.entries ↔ map.get? name = some table := by
  obtain ⟨entries, sorted⟩ := map
  simp only [get?]
  induction entries with
  | nil => simp
  | cons first rest inductionHypothesis =>
    obtain ⟨firstLeast, restSorted⟩ := List.pairwise_cons.mp sorted
    by_cases here : first.1 = name
    · have elsewhere : (name, table) ∉ rest := by
        intro member
        have before : first.1 < name := firstLeast (name, table) member
        exact String.lt_irrefl name (here ▸ before)
      subst here
      simp [elsewhere, Prod.ext_iff, eq_comm]
    · have notFirst : (name, table) ≠ first := fun same => here (same ▸ rfl)
      simpa [List.find?_cons, here, notFirst] using inductionHypothesis restSorted

/-- The names of the entries are those under which a table is found. -/
theorem mem_names (map : MetadataMap) (name : String) :
    name ∈ map.entries.map (·.1) ↔ (map.get? name).isSome = true := by
  rw [Option.isSome_iff_exists]
  constructor
  · intro member
    obtain ⟨⟨other, table⟩, inEntries, rfl⟩ := List.mem_map.mp member
    exact ⟨table, (map.mem_entries other table).mp inEntries⟩
  · rintro ⟨table, found⟩
    exact List.mem_map.mpr ⟨(name, table), (map.mem_entries name table).mpr found, rfl⟩

/-- A map from pairs; the last one of a name counts. -/
def ofPairs (pairs : List (String × TableMetadata)) : MetadataMap :=
  pairs.foldl (fun map pair => map.insert pair.1 pair.2) empty

end MetadataMap

end SqlAccess
