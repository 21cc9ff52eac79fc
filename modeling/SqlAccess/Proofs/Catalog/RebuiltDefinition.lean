import SqlAccess.Catalog.Definition
import SqlAccess.Proofs.Catalog.QuotedName
import SqlAccess.Proofs.Json.Records
import SqlAccess.Proofs.Lexical.Places

/-!
# Reading rebuilt definitions

A definition that was put together from the columns of a table is read as an engine would: what
stands before the first parenthesis outside quotes names the table, what stands up to the one that
closes it is the body, and the body is cut at its commas outside quotes and parentheses. Main
statement: whatever the names are, the table is read back and there is one item for each column in
order, with its name in front and with the mark that refuses nulls behind where the column does, and
one more for the key where there is one, with the names of its columns. What the catalog has for
types and defaults stands in the definition as it is, so it must be closed.
-/

namespace SqlAccess.Catalog

open Text Lexical
open TableName (written)

variable {dialect : Dialect} {column : Column} {columns : List Column} {table : TableRef}

section Reading

/-- The name that is quoted. -/
def quotedName? (dialect : Dialect) (part : List Char) : Option String :=
  ((Quoted.inside? dialect.opening dialect.closing part).bind
    (Quoted.undouble dialect.closing)).map String.ofList

/-- The table that is named before the body. -/
def headTable? (dialect : Dialect) (head : List Char) : Option TableRef :=
  match ((marks dialect '.').pieces (.outside 0) (trim head)).mapM (quotedName? dialect) with
  | some [name] => some ⟨none, name⟩
  | some [schema, name] => some ⟨some schema, name⟩
  | _ => none

/-- The items of a list with commas between them. -/
def listed (dialect : Dialect) (list : List Char) : List (List Char) :=
  ((marks dialect ',').pieces (.outside 0) list).map trim

/-- A definition as it is read. -/
structure Outline where
  table : TableRef
  items : List (List Char)
deriving DecidableEq, Repr

/-- The table and the items of a definition with nothing behind its body. -/
def outline? (dialect : Dialect) (definition : List Char) : Option Outline := do
  let rest ← dropStart? "CREATE TABLE ".toList definition
  let (head, behind) ← (marks dialect '(').halves? (.outside 0) rest
  let (body, after) ← (marks dialect ')').halves? (.outside 0) behind
  if after.isEmpty then
    (headTable? dialect head).map fun table => ⟨table, listed dialect body⟩
  else none

/-- The name in front of an item. -/
def itemName? (dialect : Dialect) (item : List Char) : Option String :=
  ((marks dialect ' ').pieces (.outside 0) item).head?.bind (quotedName? dialect)

/-- The names in the item of a key. -/
def keyNames? (dialect : Dialect) (item : List Char) : Option (List String) := do
  let rest ← dropStart? "PRIMARY KEY (".toList item
  let list ← dropEnd? [')'] rest
  (listed dialect list).mapM (quotedName? dialect)

/-- A text that ends by refusing nulls. -/
def RefusesNull (s : List Char) : Prop := "NOT NULL".toList <:+ trimEnd s

/-- What the catalog has for a column that stands last in its item. -/
def lastText (column : Column) : String := column.default.getD column.nativeType

/-- What the catalog has for the type and the default of a column is closed. -/
structure ClosedTexts (dialect : Dialect) (column : Column) : Prop where
  nativeType : Closed dialect ',' 0 column.nativeType.toList
  default : ∀ text ∈ column.default, Closed dialect ',' 0 text.toList

instance : Decidable (ClosedTexts dialect column) :=
  decidable_of_iff (Closed dialect ',' 0 column.nativeType.toList ∧
      ∀ text ∈ column.default, Closed dialect ',' 0 text.toList)
    ⟨fun closed => ⟨closed.1, closed.2⟩,
      fun closed => ⟨closed.nativeType, closed.default⟩⟩

/-- An item that declares a column. It refuses nulls where the column does, or where what the
catalog has ends so. -/
structure Declares (dialect : Dialect) (column : Column) (item : List Char) : Prop where
  name : itemName? dialect item = some column.name
  nulls : RefusesNull item ↔ column.isNullable = false ∨ RefusesNull (lastText column).toList

/-- The items behind the columns: none without a key, and else one with the names of the key. -/
def DeclaresKey (dialect : Dialect) (columns : List Column) (items : List (List Char)) : Prop :=
  match columns.filter fun column => column.isPrimaryKey with
  | [] => items = []
  | keys => ∃ item, items = [item] ∧
      keyNames? dialect item = some (keys.map fun column => column.name)

end Reading

section Names

/-- A quoted name is read back. -/
theorem quoted_name?_written (dialect : Dialect) (name : String) :
    quotedName? dialect (written dialect name) = some name := by
  rw [quotedName?, written, Quoted.inside_enclose, Option.bind_some, Quoted.undouble_double,
    Option.map_some, String.ofList_toList]

/-- An identifier is written in quotes. -/
theorem to_list_quote_identifier (dialect : Dialect) (name : String) :
    (dialect.quoteIdentifier name).toList = written dialect name := String.toList_ofList

/-- A quoted table is one name, or two with a dot between them. -/
theorem pieces_quote_table (dialect : Dialect) (table : TableRef) :
    (marks dialect '.').pieces (.outside 0) (dialect.quoteTable table).toList =
      (table.schema.toList ++ [table.name]).map (written dialect) := by
  obtain ⟨schema, name⟩ := table
  have last : (marks dialect '.').pieces (.outside 0) (written dialect name) =
      [written dialect name] := Scan.pieces_of_through (through_name rfl 0 name.toList)
  cases schema with
  | none =>
    rw [TableName.to_list_quote_table_none]
    exact last
  | some schema =>
    have first : Closed dialect '.' 0 (written dialect schema) :=
      closed_name rfl 0 schema.toList
    obtain ⟨after, passes, cut, back⟩ := first.returns rfl
    rw [TableName.to_list_quote_table_some, Scan.pieces_append_cons passes cut, back]
    exact congrArg (written dialect schema :: ·) last

/-- A quoted table is read back. -/
theorem head_table?_quote_table (dialect : Dialect) (table : TableRef) :
    headTable? dialect ((dialect.quoteTable table).toList ++ [' ']) = some table := by
  have blank := trim_spaced List.all_nil (show [' '].all isBlank = true by decide)
    (dialect.quoteTable table).toList
  rw [List.nil_append, (TableName.trimmed_quote_table dialect table).trim_eq] at blank
  obtain ⟨schema, name⟩ := table
  rw [headTable?, blank, pieces_quote_table]
  cases schema <;> simp [quoted_name?_written]

/-- A quoted table is closed. -/
theorem closed_quote_table {separator : Char} (apart : isQuote separator = false)
    (other : '.' ≠ separator) (table : TableRef) :
    Closed dialect separator 0 (dialect.quoteTable table).toList := by
  obtain ⟨schema, name⟩ := table
  cases schema with
  | none =>
    rw [TableName.to_list_quote_table_none]
    exact closed_name apart 0 name.toList
  | some schema =>
    rw [TableName.to_list_quote_table_some]
    exact (closed_name apart 0 schema.toList).beside rfl (fun _ => other)
      (closed_name apart 0 name.toList)

end Names

section Columns

/-- What stands in an item before the last of the texts that the catalog has. -/
def columnFront (dialect : Dialect) (column : Column) : List Char :=
  match column.default with
  | none => written dialect column.name
  | some _ =>
    written dialect column.name ++ ' ' :: (column.nativeType.toList ++ " DEFAULT".toList)

/-- The line of a column without the blanks in front. -/
def columnText (dialect : Dialect) (column : Column) : List Char :=
  columnFront dialect column ++ ' ' :: ((lastText column).toList ++
    if column.isNullable then [] else " NOT NULL".toList)

/-- The line of a column is its text, indented. -/
theorem to_list_column_line (dialect : Dialect) (column : Column) :
    (columnLine dialect column).toList = "    ".toList ++ columnText dialect column := by
  have blank : " ".toList = [' '] := rfl
  have word : " DEFAULT ".toList = " DEFAULT".toList ++ [' '] := rfl
  have nothing : "".toList = [] := rfl
  have line : (columnLine dialect column).toList = "    ".toList ++ (written dialect column.name ++
      (" ".toList ++ (column.nativeType.toList ++
        ((column.default.elim [] fun text => " DEFAULT ".toList ++ text.toList) ++
        if column.isNullable then [] else " NOT NULL".toList)))) := by
    rw [columnLine]
    cases column.default <;> cases column.isNullable <;>
      simp only [String.toList_append, to_list_quote_identifier, nothing, List.append_assoc,
        List.append_nil, List.nil_append, Bool.false_eq_true, if_true, if_false, Option.elim_none,
        Option.elim_some]
  rw [line, columnText, columnFront, lastText]
  cases column.default <;>
    simp only [blank, word, Option.elim_none, Option.elim_some, Option.getD_none, Option.getD_some,
      List.append_assoc, List.cons_append, List.nil_append]

/-- The text of a column begins with its name in quotes. -/
theorem exists_column_text (dialect : Dialect) (column : Column) :
    ∃ behind, columnText dialect column = written dialect column.name ++ ' ' :: behind := by
  rw [columnText, columnFront]
  split
  · exact ⟨_, rfl⟩
  · exact ⟨_, by rw [List.append_assoc, List.cons_append]⟩

/-- An item is the text of its column without the blanks behind it. -/
theorem trim_column_line (dialect : Dialect) (column : Column) :
    trim (columnLine dialect column).toList = trimEnd (columnText dialect column) := by
  obtain ⟨behind, text⟩ := exists_column_text dialect column
  have ink : isBlank dialect.opening = false := by cases dialect <;> decide
  have starts : ∀ c ∈ (columnText dialect column).head?, isBlank c = false := by
    intro c first
    rw [text] at first
    rwa [← Option.some.inj first]
  have spaced := trim_spaced (show "    ".toList.all isBlank = true by decide) List.all_nil
    (columnText dialect column)
  rw [List.append_nil] at spaced
  rw [to_list_column_line, spaced, trim, trim_start_eq_self starts]

/-- The name in front of an item is that of the column. -/
theorem item_name?_column_line (dialect : Dialect) (column : Column) :
    itemName? dialect (trim (columnLine dialect column).toList) = some column.name := by
  obtain ⟨behind, text⟩ := exists_column_text dialect column
  have passes : (marks dialect ' ').through (.outside 0) (written dialect column.name) =
      some (.leaving (Quote.ofNames dialect) 0) := through_name rfl 0 column.name.toList
  have trimmed := TableName.trimmed_written dialect column.name
  have first : ((marks dialect ' ').pieces (.outside 0)
      (trim (columnLine dialect column).toList)).head? = some (written dialect column.name) := by
    rw [trim_column_line, text]
    cases visible : behind.all isBlank with
    | true =>
      have blank : (' ' :: behind).all isBlank = true := by
        rw [List.all_cons, visible]
        decide
      rw [trim_end_append_blank blank, trim_end_eq_self trimmed.ends,
        Scan.pieces_of_through passes]
      rfl
    | false =>
      have kept : trimEnd (written dialect column.name ++ ' ' :: behind) =
          written dialect column.name ++ ' ' :: trimEnd behind := by
        rw [List.append_cons, trim_end_append_of_visible visible, ← List.append_cons]
      rw [kept, Scan.pieces_append_cons passes rfl]
      rfl
  rw [itemName?, first, Option.bind_some, quoted_name?_written]

end Columns

section Nulls

variable {front text : List Char}

/-- Around a blank the two words stand. -/
theorem word_of_append_blank {word rest : List Char}
    (whole : word ++ ' ' :: rest = "NOT NULL".toList) : word = "NOT".toList := by
  have once := congrArg (List.count ' ') whole
  rw [List.count_append, List.count_cons_self] at once
  have free : ' ' ∉ word := List.count_eq_zero.mp (by
    have total : "NOT NULL".toList.count ' ' = 1 := by decide
    omega)
  have cut := cut_at_append free rest
  rw [whole] at cut
  exact (congrArg Prod.fst (Option.some.inj cut)).symm

/-- The mark stands behind a blank, unless it goes on from the text before the blank. -/
theorem mark_of_spaced (other : ¬ "NOT".toList <:+ front)
    (mark : "NOT NULL".toList <:+ (front ++ [' ']) ++ text) : "NOT NULL".toList <:+ text := by
  rcases List.suffix_or_suffix_of_suffix mark (List.suffix_append _ _) with
    within | ⟨word, whole⟩
  · exact within
  · obtain ⟨before, same⟩ := mark
    rw [← whole, ← List.append_assoc] at same
    have cut : before ++ word = front ++ [' '] := List.append_cancel_right same
    rcases List.eq_nil_or_concat' word with rfl | ⟨start, c, rfl⟩
    · exact ⟨[], whole.symm⟩
    · -- the blank in the mark is the one behind the front, which then ends in the first word
      rw [← List.append_assoc] at cut
      obtain ⟨rfl, last⟩ := List.append_inj' cut rfl
      obtain rfl : c = ' ' := List.singleton_inj.mp last
      rw [← List.append_cons] at whole
      exact absurd (word_of_append_blank whole ▸ List.suffix_append before start) other

/-- What refuses nulls behind a blank refuses them by itself, unless it goes on from the text before
the blank. -/
theorem refuses_null_spaced (ends : ∀ c ∈ front.getLast?, isBlank c = false ∧ c ≠ 'L')
    (other : ¬ "NOT".toList <:+ front) :
    RefusesNull (front ++ ' ' :: text) ↔ RefusesNull text := by
  unfold RefusesNull
  cases visible : text.all isBlank with
  | true =>
    have blank : (' ' :: text).all isBlank = true := by
      rw [List.all_cons, visible]
      decide
    have nothing : trimEnd text = [] := trim_end_append_blank visible []
    rw [trim_end_append_blank blank, trim_end_eq_self fun c last => (ends c last).1, nothing]
    refine iff_of_false (fun refuses => ?_) (by decide)
    obtain ⟨before, rfl⟩ := refuses
    refine (ends 'L' ?_).2 rfl
    rw [List.getLast?_append]
    rfl
  | false =>
    rw [List.append_cons, trim_end_append_of_visible visible]
    exact ⟨mark_of_spaced other, fun refuses => refuses.trans (List.suffix_append _ _)⟩

/-- The mark at the end refuses nulls. -/
theorem refuses_null_append (s : List Char) : RefusesNull (s ++ " NOT NULL".toList) := by
  have visible : " NOT NULL".toList.all isBlank = false := by decide
  rw [RefusesNull, trim_end_append_of_visible visible]
  exact (by decide : "NOT NULL".toList <:+ trimEnd " NOT NULL".toList).trans
    (List.suffix_append _ _)

/-- What stands before the last of the catalog's texts is not a part of the mark. -/
theorem column_front_ends (dialect : Dialect) (column : Column) :
    (∀ c ∈ (columnFront dialect column).getLast?, isBlank c = false ∧ c ≠ 'L') ∧
      ¬ "NOT".toList <:+ columnFront dialect column := by
  have name : written dialect column.name =
      (dialect.opening :: Quoted.double dialect.closing column.name.toList) ++ [dialect.closing] :=
    rfl
  rw [columnFront]
  split
  · rw [name]
    refine ⟨fun c last => ?_, fun mark => ?_⟩
    · rw [List.getLast?_concat, Option.mem_some] at last
      subst last
      cases dialect <;> decide
    · have last : ['T'] <:+ [dialect.closing] := List.suffix_of_suffix_length_le
        ((by decide : ['T'] <:+ "NOT".toList).trans mark) (List.suffix_append _ _) (Nat.le_refl 1)
      revert last
      cases dialect <;> decide
  · rw [← List.cons_append, ← List.append_assoc]
    refine ⟨fun c last => ?_, fun mark => ?_⟩
    · rw [List.getLast?_append] at last
      obtain rfl : 'T' = c := Option.some.inj last
      decide
    · have last : "NOT".toList <:+ " DEFAULT".toList := List.suffix_of_suffix_length_le mark
        (List.suffix_append _ _) (by decide)
      exact absurd last (by decide)

/-- An item refuses nulls where its column does, or where what the catalog has ends so. -/
theorem refuses_null_column_line (dialect : Dialect) (column : Column) :
    RefusesNull (trim (columnLine dialect column).toList) ↔
      column.isNullable = false ∨ RefusesNull (lastText column).toList := by
  have settled : RefusesNull (trim (columnLine dialect column).toList) ↔
      RefusesNull (columnText dialect column) := by
    rw [RefusesNull, trim_end_eq_self (trimmed_trim _).ends, trim_column_line, RefusesNull]
  rw [settled, columnText]
  cases column.isNullable with
  | false =>
    refine iff_of_true ?_ (Or.inl rfl)
    rw [← List.cons_append, ← List.append_assoc]
    exact refuses_null_append _
  | true =>
    obtain ⟨ends, other⟩ := column_front_ends dialect column
    rw [if_pos rfl, List.append_nil, refuses_null_spaced ends other]
    exact (or_iff_right (by decide)).symm

/-- Each line of a column declares it. -/
theorem declares_column_line (dialect : Dialect) (column : Column) :
    Declares dialect column (trim (columnLine dialect column).toList) :=
  ⟨item_name?_column_line dialect column, refuses_null_column_line dialect column⟩

end Nulls

section Bodies

/-- Plain text without a comma. -/
theorem closed_of_all {s : List Char}
    (decided : s.all (fun c => isPlain c && c != ',') = true) : Closed dialect ',' 0 s := by
  have all : ∀ c ∈ s, isPlain c = true ∧ c ≠ ',' := fun c member => by
    simpa using List.all_eq_true.mp decided c member
  exact closed_of_is_plain (fun c member => (all c member).1)
    (fun member => (all ',' member).2 rfl) 0

/-- The line of a column is closed, whatever its name is. -/
theorem closed_column_line (closed : ClosedTexts dialect column) :
    Closed dialect ',' 0 (columnLine dialect column).toList := by
  have name : Closed dialect ',' 0 (written dialect column.name) :=
    closed_name rfl 0 column.name.toList
  have front : Closed dialect ',' 0 (columnFront dialect column) := by
    rw [columnFront]
    split
    · exact name
    · refine name.beside rfl (fun _ => by decide) ?_
      exact closed.nativeType.beside (c := ' ') rfl (fun _ => by decide)
        (closed_of_all (s := "DEFAULT".toList) (by decide))
  have last : Closed dialect ',' 0 (lastText column).toList := by
    rw [lastText]
    cases hasDefault : column.default with
    | none => exact closed.nativeType
    | some text => exact closed.default text hasDefault
  have text : Closed dialect ',' 0 (columnText dialect column) := by
    rw [columnText]
    refine front.beside rfl (fun _ => by decide) ?_
    split
    · rwa [List.append_nil]
    · exact last.beside (c := ' ') rfl (fun _ => by decide)
        (closed_of_all (s := "NOT NULL".toList) (by decide))
  have margin : Closed dialect ',' 0 "   ".toList := closed_of_all (by decide)
  rw [to_list_column_line]
  exact margin.beside (c := ' ') rfl (fun _ => by decide) text

/-- The items of a list of closed items with blanks and commas between them. -/
theorem listed_join_with {gap : Char} {items : List (List Char)} (blank : isBlank gap = true)
    (nonempty : items ≠ []) (closed : ∀ item ∈ items, Closed dialect ',' 0 item) :
    listed dialect (joinWith [',', gap] items) = items.map trim :=
  map_trim_pieces_join_with rfl (by decide) blank nonempty closed

/-- The line of the key with its parts. -/
def keyText (dialect : Dialect) (names : List String) : List Char :=
  "PRIMARY KEY (".toList ++ (joinWith [',', ' '] (names.map (written dialect)) ++ [')'])

/-- Strings with a text between them. -/
theorem to_list_intercalate (separator : String) (items : List String) :
    (String.intercalate separator items).toList =
      joinWith separator.toList (items.map String.toList) := by
  induction items with
  | nil => rfl
  | cons item others inductionHypothesis =>
    cases others with
    | nil => simp [joinWith]
    | cons next more =>
      rw [String.intercalate_cons_cons, String.toList_append, String.toList_append,
        inductionHypothesis, List.map_cons, List.map_cons, List.map_cons, join_with_cons_cons]

/-- The item of a key is read back. -/
theorem key_names?_key_text (dialect : Dialect) {names : List String} (nonempty : names ≠ []) :
    keyNames? dialect (keyText dialect names) = some names := by
  have opened : dropStart? "PRIMARY KEY (".toList (keyText dialect names) =
      some (joinWith [',', ' '] (names.map (written dialect)) ++ [')']) :=
    drop_start?_eq_some_iff.mpr rfl
  have closed : ∀ item ∈ names.map (written dialect), Closed dialect ',' 0 item := by
    intro item member
    obtain ⟨name, _, rfl⟩ := List.mem_map.mp member
    exact closed_name rfl 0 name.toList
  have items : listed dialect (joinWith [',', ' '] (names.map (written dialect))) =
      names.map (written dialect) := by
    rw [listed_join_with (by decide) (by simpa using nonempty) closed, List.map_map]
    exact List.map_congr_left fun name _ => (TableName.trimmed_written dialect name).trim_eq
  simp only [keyNames?, opened, Option.bind_eq_bind, Option.bind_some, drop_end?_append, items]
  exact Json.mapm_map (quoted_name?_written dialect) names

/-- The line of a key is closed. -/
theorem closed_key_text (dialect : Dialect) (names : List String) :
    Closed dialect ',' 0 ("    ".toList ++ keyText dialect names) := by
  have list : Closed dialect ',' 1 (joinWith [',', ' '] (names.map (written dialect))) := by
    refine closed_join_with rfl nofun rfl nofun fun item member => ?_
    obtain ⟨name, _, rfl⟩ := List.mem_map.mp member
    exact closed_name rfl 1 name.toList
  have words : Closed dialect ',' 0 "    PRIMARY KEY".toList := closed_of_all (by decide)
  exact words.beside (c := ' ') rfl (fun _ => by decide) (list.parens (by decide))

/-- The item of a key has no blanks around it. -/
theorem trim_key_text (dialect : Dialect) (names : List String) :
    trim ("    ".toList ++ keyText dialect names) = keyText dialect names := by
  have ends : Trimmed (keyText dialect names) := by
    have word : "PRIMARY KEY (".toList = 'P' :: "RIMARY KEY (".toList := by decide
    have whole : keyText dialect names = 'P' :: (("RIMARY KEY (".toList ++
        joinWith [',', ' '] (names.map (written dialect))) ++ [')']) := by
      unfold keyText
      rw [word, List.append_assoc, List.cons_append]
    rw [whole]
    exact trimmed_of_ends (by decide) _ (by decide)
  have spaced := trim_spaced (show "    ".toList.all isBlank = true by decide) List.all_nil
    (keyText dialect names)
  rwa [List.append_nil, ends.trim_eq] at spaced

/-- The line of a key is written of the names of its columns. -/
theorem to_list_key_line (dialect : Dialect) (keys : List Column) :
    ("    PRIMARY KEY (" ++
      String.intercalate ", " (keys.map fun column => dialect.quoteIdentifier column.name) ++
        ")").toList =
      "    ".toList ++ keyText dialect (keys.map fun column => column.name) := by
  have words : "    PRIMARY KEY (".toList = "    ".toList ++ "PRIMARY KEY (".toList := by decide
  have ends : ")".toList = [')'] := by decide
  have blank : ", ".toList = [',', ' '] := by decide
  have names : (keys.map fun column => dialect.quoteIdentifier column.name).map String.toList =
      (keys.map fun column => column.name).map (written dialect) := by
    rw [List.map_map, List.map_map]
    exact List.map_congr_left fun column _ => to_list_quote_identifier dialect column.name
  unfold keyText
  rw [String.toList_append, String.toList_append, to_list_intercalate, names, words, ends, blank,
    List.append_assoc, List.append_assoc]

/-- The line of a key is closed, and its item is read back. -/
theorem declares_key_primary_key_line (dialect : Dialect) (columns : List Column) :
    let lines := (primaryKeyLine? dialect columns).toList.map String.toList
    DeclaresKey dialect columns (lines.map trim) ∧
      ∀ line ∈ lines, Closed dialect ',' 0 line := by
  intro lines
  rw [DeclaresKey]
  cases keys : columns.filter fun column => column.isPrimaryKey with
  | nil =>
    have none : lines = [] := by simp only [lines, primaryKeyLine?, keys]; rfl
    rw [none]
    exact ⟨rfl, nofun⟩
  | cons first others =>
    have one : lines = ["    ".toList ++
        keyText dialect ((first :: others).map fun column => column.name)] := by
      simp only [lines, primaryKeyLine?, keys]
      exact congrArg (fun line => [line]) (to_list_key_line dialect (first :: others))
    rw [one]
    refine ⟨⟨_, rfl, ?_⟩, List.forall_mem_singleton.mpr (closed_key_text dialect _)⟩
    rw [trim_key_text]
    exact key_names?_key_text dialect (List.cons_ne_nil _ _)

/-- Blanks around a list make no difference to its items. -/
theorem listed_trim (dialect : Dialect) (list : List Char) :
    listed dialect (trim list) = listed dialect list := map_trim_pieces_marks (by decide) list

/-- What is put together of closed lines is read as the table and the lines. -/
theorem outline?_joined (dialect : Dialect) (table : TableRef) {lines : List (List Char)}
    (nonempty : lines ≠ []) (closed : ∀ line ∈ lines, Closed dialect ',' 0 line) :
    outline? dialect ("CREATE TABLE ".toList ++ (((dialect.quoteTable table).toList ++ [' ']) ++
      '(' :: (('\n' :: (joinWith [',', '\n'] lines ++ ['\n'])) ++ [')']))) =
        some ⟨table, lines.map trim⟩ := by
  have nothing {separator : Char} : Closed dialect separator 0 [] := ⟨_, rfl, rfl⟩
  have head : Closed dialect '(' 0 ((dialect.quoteTable table).toList ++ [' ']) :=
    (closed_quote_table rfl (by decide) table).beside rfl (fun _ => by decide) nothing
  have joined : Closed dialect ')' 0 (joinWith [',', '\n'] lines) :=
    closed_join_with rfl (fun _ => by decide) rfl (fun _ => by decide) fun line member =>
      (closed line member).closes
  have body : Closed dialect ')' 0 ('\n' :: (joinWith [',', '\n'] lines ++ ['\n'])) :=
    (joined.beside rfl (fun _ => by decide) nothing).behind rfl fun _ => by decide
  have items : listed dialect ('\n' :: (joinWith [',', '\n'] lines ++ ['\n'])) =
      lines.map trim := by
    have blank : ['\n'].all isBlank = true := by decide
    have spaced := trim_spaced blank blank (joinWith [',', '\n'] lines)
    rw [← listed_join_with (show isBlank '\n' = true by decide) nonempty closed,
      ← listed_trim dialect (joinWith _ _), ← spaced, listed_trim]
    rfl
  have opened := drop_start?_eq_some_iff.mpr (Eq.refl ("CREATE TABLE ".toList ++
    (((dialect.quoteTable table).toList ++ [' ']) ++
      '(' :: (('\n' :: (joinWith [',', '\n'] lines ++ ['\n'])) ++ [')']))))
  simp only [outline?, opened, Option.bind_eq_bind, Option.bind_some, head.halves?_eq,
    body.halves?_eq, head_table?_quote_table, items]
  rfl

end Bodies

/-- A definition is put together of its lines. -/
theorem to_list_definition (dialect : Dialect) (table : TableRef) (lines : List String) :
    ("CREATE TABLE " ++ dialect.quoteTable table ++ " (\n" ++ String.intercalate ",\n" lines ++
      "\n)").toList =
        "CREATE TABLE ".toList ++ (((dialect.quoteTable table).toList ++ [' ']) ++
          '(' :: (('\n' :: (joinWith [',', '\n'] (lines.map String.toList) ++ ['\n'])) ++
            [')'])) := by
  have opens : " (\n".toList = [' ', '(', '\n'] := by decide
  have comma : ",\n".toList = [',', '\n'] := by decide
  have closes : "\n)".toList = ['\n', ')'] := by decide
  simp only [String.toList_append, to_list_intercalate, opens, comma, closes, List.append_assoc,
    List.cons_append, List.nil_append]

/-- The lines of a definition are those of its columns and that of its key. -/
theorem to_list_lines (dialect : Dialect) (columns : List Column) :
    (columns.map (columnLine dialect) ++ (primaryKeyLine? dialect columns).toList).map
        String.toList =
      columns.map (fun column => (columnLine dialect column).toList) ++
        (primaryKeyLine? dialect columns).toList.map String.toList := by
  rw [List.map_append, List.map_map]
  rfl

/-- The lines are closed where those behind the columns are. -/
theorem closed_lines {others : List (List Char)}
    (closed : ∀ column ∈ columns, ClosedTexts dialect column)
    (closedOthers : ∀ line ∈ others, Closed dialect ',' 0 line) :
    ∀ line ∈ columns.map (fun column => (columnLine dialect column).toList) ++ others,
      Closed dialect ',' 0 line := by
  intro line member
  rcases List.mem_append.mp member with own | other
  · obtain ⟨column, listed, rfl⟩ := List.mem_map.mp own
    exact closed_column_line (closed column listed)
  · exact closedOthers line other

/-- There is a definition exactly where there are columns, and it is read as the table, an item for
each column that declares it, and an item for the key where there is one, whatever the names are.

Proof: the lines of the columns and of the key are closed, since quoted names are and the texts of
the catalog are given so; so the commas between them are the only ones outside. The body is cut
there, and each item is read back on its own. -/
theorem definition?_outline (dialect : Dialect) (table : TableRef) (columns : List Column)
    (closed : ∀ column ∈ columns, ClosedTexts dialect column) :
    (definition? dialect table columns = none ↔ columns = []) ∧
      ∀ definition, definition? dialect table columns = some definition →
        ∃ items key, outline? dialect definition.toList = some ⟨table, items ++ key⟩ ∧
          List.Forall₂ (Declares dialect) columns items ∧ DeclaresKey dialect columns key := by
  unfold definition?
  split
  · rename_i empty
    exact ⟨iff_of_true rfl (List.isEmpty_iff.mp empty), nofun⟩
  · rename_i present
    rw [List.isEmpty_iff] at present
    refine ⟨iff_of_false nofun present, ?_⟩
    rintro _ ⟨⟩
    obtain ⟨keyed, closedKey⟩ := declares_key_primary_key_line dialect columns
    have read := outline?_joined dialect table
      (List.append_ne_nil_of_left_ne_nil (mt List.map_eq_nil_iff.mp present) _)
      (closed_lines closed closedKey)
    refine ⟨(columns.map fun column => (columnLine dialect column).toList).map trim, _, ?_, ?_,
      keyed⟩
    · rw [to_list_definition, to_list_lines, read, List.map_append]
    · rw [List.forall₂_map_right_iff, List.forall₂_map_right_iff]
      exact List.forall₂_same.mpr fun column _ => declares_column_line dialect column

/-- Names with quotes, brackets, commas, parentheses, dots and line breaks in them, and one that
looks like the mark. -/
theorem definition?_outline_crowded :
    let plain : Column :=
      ⟨"a\"],(\n", .decimal, "numeric(10, 2)", none, some 10, some 2, none, true, false⟩
    let columns : List Column := [plain,
      { plain with name := "NOT NULL", nativeType := "text", default := some "'it''s, (' || ')'",
                   isPrimaryKey := false, isNullable := true },
      { plain with name := "", nativeType := "int NOT NULL", isNullable := true }]
    let table : TableRef := ⟨some "x.\"y", "z] (\"\""⟩
    (∀ column ∈ columns, ClosedTexts .sqlServer column) ∧
      ∃ definition items key, definition? .sqlServer table columns = some definition ∧
        outline? .sqlServer definition.toList = some ⟨table, items ++ key⟩ ∧
        List.Forall₂ (Declares .sqlServer) columns items ∧
          DeclaresKey .sqlServer columns key := by
  intro plain columns table
  have closed : ∀ column ∈ columns, ClosedTexts .sqlServer column := by decide +kernel
  obtain ⟨empty, read⟩ := definition?_outline .sqlServer table columns closed
  refine ⟨closed, ?_⟩
  cases found : definition? .sqlServer table columns with
  | none => exact absurd (empty.mp found) (List.cons_ne_nil _ _)
  | some definition =>
    obtain ⟨items, key, whole⟩ := read definition found
    exact ⟨definition, items, key, rfl, whole⟩

end SqlAccess.Catalog
