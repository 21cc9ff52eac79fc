import Mathlib.Algebra.GroupWithZero.Nat
import SqlAccess.Catalog.TableName
import SqlAccess.Proofs.Text.Quoted
import SqlAccess.Proofs.Text.Trim

/-!
# Reading quoted names of tables

A table is written with each of its parts in quotes, and a name is cut at its dots outside quotes
before the quotes of its parts are taken off. Main statement: exactly when a table is read back from
what is written of it. With double quotes it always is. With brackets it is where no dot seems to
stand outside: a doubled closing bracket ends the quotes, since the second one opens nothing, and
what follows it is read as if it were not quoted.

That nothing else can be read back needs no look at the parts themselves. Taking off blanks and
quotes loses no dot and adds none, so the parts that are read have too few dots when there was a cut
too many.
-/

namespace SqlAccess

namespace TableName

open Text.Quoted (enclose double)

/-- Taking off blanks and quotes leaves some of the characters in their order. -/
theorem unquote_sublist (part : List Char) : (unquote part).Sublist part := by
  cases found : styles.findSome? fun style =>
      (Text.Quoted.inside? style.1 style.2 (Text.trim part)).map
        (Text.Quoted.collapse style.2) with
  | none =>
    simp only [unquote, found, Option.getD_none]
    exact Text.trim_sublist part
  | some inner =>
    simp only [unquote, found, Option.getD_some]
    obtain ⟨style, _, quoted⟩ := List.exists_of_findSome?_eq_some found
    obtain ⟨between, ends, rfl⟩ := Option.map_eq_some_iff.mp quoted
    exact (Text.Quoted.collapse_sublist _ _).trans
      ((Text.Quoted.sublist_of_inside ends).trans (Text.trim_sublist part))

/-- What is enclosed in a style of quotes ends with them. -/
theorem trimmed_enclose {style : Char × Char} (known : style ∈ styles) (part : List Char) :
    Text.Trimmed (enclose style.1 style.2 part) := by
  simp only [styles, List.mem_cons, List.not_mem_nil, or_false] at known
  rcases known with rfl | rfl | rfl <;> exact Text.trimmed_of_ends (by decide) _ (by decide)

/-- The quotes of each style come off again. -/
theorem unquote_enclose {style : Char × Char} (known : style ∈ styles) (part : List Char) :
    unquote (enclose style.1 style.2 part) = part := by
  have trimmed := (trimmed_enclose known part).trim_eq
  have collapsed := Text.Quoted.collapse_double style.2 part
  have ends := Text.Quoted.inside_enclose style.1 style.2 part
  simp only [styles, List.mem_cons, List.not_mem_nil, or_false] at known
  rcases known with rfl | rfl | rfl <;>
    simp_all [unquote, styles, enclose, Text.Quoted.inside?]

/-- Each dialect's quotes are one of the styles. -/
theorem style_mem_styles (dialect : Dialect) : (dialect.opening, dialect.closing) ∈ styles := by
  cases dialect <;> decide

section Scan

/-- The quotes that are open after a text; nothing where a dot outside quotes cuts it. -/
def through : Option Char → List Char → Option (Option Char)
  | closing, [] => some closing
  | some quote, c :: rest => through (if c = quote then none else some quote) rest
  | none, c :: rest => if c = '.' then none else through (closingOf? c) rest

/-- A text that the scan passes belongs to the first part. -/
theorem parts_append {closing after : Option Char} {s rest first : List Char}
    {others : List (List Char)} (passes : through closing s = some after)
    (cut : parts after rest = first :: others) :
    parts closing (s ++ rest) = (s ++ first) :: others := by
  fun_induction through closing s <;> simp_all [parts, onto]

/-- A text that the scan passes is one part. -/
theorem parts_of_through {closing after : Option Char} {s : List Char}
    (passes : through closing s = some after) : parts closing s = [s] := by
  have ends : parts after [] = [] :: [] := by simp [parts]
  have whole := parts_append passes ends
  simpa using whole

/-- There is always a part. -/
theorem parts_ne_nil (closing : Option Char) (s : List Char) : parts closing s ≠ [] := by
  cases s with
  | nil => simp [parts]
  | cons c rest =>
    have onto_ne_nil (others : List (List Char)) : onto c others ≠ [] := by
      cases others <;> simp [onto]
    cases closing with
    | some quote => exact onto_ne_nil _
    | none =>
      rw [parts]
      split
      · simp
      · exact onto_ne_nil _

/-- A character in front of a text is in front of its first part. -/
theorem parts_of_onto {c : Char} {closing : Option Char} {rest first : List Char}
    {others : List (List Char)} (cut : onto c (parts closing rest) = first :: others) :
    ∃ part, first = c :: part ∧ parts closing rest = part :: others := by
  cases later : parts closing rest with
  | nil => exact absurd later (parts_ne_nil closing rest)
  | cons part more =>
    rw [later, onto] at cut
    cases cut
    exact ⟨part, rfl, rfl⟩

/-- The first part is a text that the scan passes: the whole one, or all before a dot outside
quotes. -/
theorem parts_cases {closing : Option Char} {s first : List Char} {others : List (List Char)}
    (cut : parts closing s = first :: others) :
    (others = [] ∧ first = s ∧ (through closing s).isSome = true) ∨
      ∃ rest, s = first ++ '.' :: rest ∧ through closing first = some none ∧
        parts none rest = others := by
  fun_induction parts closing s generalizing first with
  | case1 => simp_all [through]
  | case2 c rest quote inductionHypothesis =>
    obtain ⟨part, rfl, later⟩ := parts_of_onto cut
    simpa [through] using inductionHypothesis later
  | case3 rest =>
    cases cut
    exact Or.inr ⟨rest, rfl, rfl, rfl⟩
  | case4 c rest noDot inductionHypothesis =>
    obtain ⟨part, rfl, later⟩ := parts_of_onto cut
    simpa [through, noDot] using inductionHypothesis later

/-- Every dot is in a part or between two of them. -/
theorem sum_count_parts (closing : Option Char) (s : List Char) :
    ((parts closing s).map (List.count '.')).sum + (parts closing s).length =
      s.count '.' + 1 := by
  fun_induction parts closing s with
  | case1 => rfl
  | case2 c rest quote inductionHypothesis =>
    obtain ⟨part, others, cut⟩ := List.exists_cons_of_ne_nil
      (parts_ne_nil (if c = quote then none else some quote) rest)
    rw [cut] at inductionHypothesis ⊢
    simp only [onto, List.map_cons, List.sum_cons, List.length_cons, List.count_cons] at *
    omega
  | case3 rest inductionHypothesis =>
    simp only [List.map_cons, List.sum_cons, List.length_cons, List.count_nil,
      List.count_cons_self]
    omega
  | case4 c rest noDot inductionHypothesis =>
    obtain ⟨part, others, cut⟩ := List.exists_cons_of_ne_nil (parts_ne_nil (closingOf? c) rest)
    rw [cut] at inductionHypothesis ⊢
    simp only [onto, List.map_cons, List.sum_cons, List.length_cons, List.count_cons] at *
    omega

/-- The parts from the last one on hold every dot but those between them. -/
theorem sum_count_reverse {s last : List Char} {before : List (List Char)}
    (cut : (parts none s).reverse = last :: before) :
    last.count '.' + (before.map (List.count '.')).sum + before.length = s.count '.' := by
  have total := sum_count_parts none s
  rw [← List.length_reverse, ← List.sum_reverse, ← List.map_reverse, cut] at total
  simp only [List.map_cons, List.sum_cons, List.length_cons] at total
  omega

/-- A text whose last part holds all its dots is one part. -/
theorem passes_of_count_le {s last : List Char} {before : List (List Char)}
    (cut : (parts none s).reverse = last :: before) (dots : s.count '.' ≤ last.count '.') :
    (through none s).isSome = true := by
  have total := sum_count_reverse cut
  have alone : before = [] := List.eq_nil_of_length_eq_zero (by omega)
  rw [alone, List.reverse_eq_iff] at cut
  rcases parts_cases cut with ⟨_, _, passes⟩ | ⟨_, _, _, none⟩
  · exact passes
  · exact absurd none (parts_ne_nil _ _)

/-- Texts in front of a dot are the same when they hold equally many dots. -/
theorem eq_of_append_dot {first second rest others : List Char}
    (same : first ++ '.' :: rest = second ++ '.' :: others)
    (dots : first.count '.' = second.count '.') : first = second := by
  induction first generalizing second with
  | nil =>
    cases second with
    | nil => rfl
    | cons c tail =>
      have begins : '.' = c := (List.cons.inj same).1
      simp [← begins] at dots
  | cons c tail inductionHypothesis =>
    cases second with
    | nil =>
      have begins : c = '.' := (List.cons.inj same).1
      simp [begins] at dots
    | cons d more =>
      obtain ⟨rfl, tails⟩ := List.cons.inj same
      rw [inductionHypothesis tails (by simpa [List.count_cons] using dots)]

/-- Two texts with a dot between them are cut there when the last two parts hold all their dots. -/
theorem passes_of_counts_le {s rest last first : List Char} {before : List (List Char)}
    (cut : (parts none (s ++ '.' :: rest)).reverse = last :: first :: before)
    (dots : rest.count '.' ≤ last.count '.') (dotsBefore : s.count '.' ≤ first.count '.') :
    through none s = some none ∧ (through none rest).isSome = true := by
  have total := sum_count_reverse cut
  simp only [List.count_append, List.count_cons_self, List.map_cons, List.sum_cons,
    List.length_cons] at total
  have two : before = [] := List.eq_nil_of_length_eq_zero (by omega)
  subst two
  rw [List.reverse_eq_iff] at cut
  rcases parts_cases (show parts none (s ++ '.' :: rest) = first :: [last] from cut) with
    ⟨impossible, _⟩ | ⟨behind, whole, passes, cutBehind⟩
  · cases impossible
  · obtain rfl : s = first := eq_of_append_dot whole (by omega)
    obtain rfl : rest = behind := (List.cons.inj (List.append_cancel_left whole)).2
    exact ⟨passes, passes_of_count_le (by rw [cutBehind]; rfl) dots⟩

end Scan

section Parse

/-- What is read from a name: the last of its parts, behind the one before it. -/
theorem parse_eq_ok_iff {name : String} (visible : Text.isBlankText name = false)
    {last : List Char} {before : List (List Char)}
    (cut : (parts none (Text.trim name.toList)).reverse = last :: before) (table : TableRef) :
    parse name = .ok table ↔
      (unquote last).all Text.isBlank = false ∧ table.name = String.ofList (unquote last) ∧
        table.schema =
          ((before.head?.map unquote).filter fun schema => !schema.isEmpty).map String.ofList := by
  have unquoted : ((parts none (Text.trim name.toList)).map unquote).reverse =
      unquote last :: before.map unquote := by
    rw [← List.map_reverse, cut, List.map_cons]
  have required : require name = .ok () := by
    rw [require, visible]
    rfl
  simp only [parse, required, unquoted, List.head?_map]
  obtain ⟨schema, tableName⟩ := table
  by_cases blank : (unquote last).all Text.isBlank = true
  · simp [blank, bind, Except.bind, throw, throwThe, MonadExceptOf.throw]
  · simp [blank, bind, Except.bind, pure, Except.pure, and_comm, eq_comm]

end Parse

section Written

variable {dialect : Dialect} {table : TableRef}

/-- A part of a name as it is written. -/
def written (dialect : Dialect) (part : String) : List Char :=
  enclose dialect.opening dialect.closing part.toList

/-- What is written holds the dots of the part. -/
theorem count_written (dialect : Dialect) (part : String) :
    (written dialect part).count '.' = part.toList.count '.' := by
  cases dialect <;>
    simp [written, enclose, Dialect.opening, Dialect.closing, Text.Quoted.count_double]

/-- What is written ends with quotes. -/
theorem trimmed_written (dialect : Dialect) (part : String) :
    Text.Trimmed (written dialect part) := trimmed_enclose (style_mem_styles dialect) part.toList

/-- A table without a schema is one part. -/
theorem to_list_quote_table_none (dialect : Dialect) (name : String) :
    (dialect.quoteTable ⟨none, name⟩).toList = written dialect name := by
  simp [Dialect.quoteTable, Dialect.quoteIdentifier, written]

/-- A table with a schema is two parts with a dot between them. -/
theorem to_list_quote_table_some (dialect : Dialect) (schema name : String) :
    (dialect.quoteTable ⟨some schema, name⟩).toList =
      written dialect schema ++ '.' :: written dialect name := by
  simp [Dialect.quoteTable, Dialect.quoteIdentifier, written]

/-- What is written of a table has no blanks at its ends. -/
theorem trimmed_quote_table (dialect : Dialect) (table : TableRef) :
    Text.Trimmed (dialect.quoteTable table).toList := by
  obtain ⟨schema, name⟩ := table
  cases schema with
  | none =>
    rw [to_list_quote_table_none]
    exact trimmed_written dialect name
  | some schema =>
    have dot : Text.Trimmed ['.'] :=
      Text.trimmed_of_forall (List.forall_mem_singleton.mpr (by decide))
    rw [to_list_quote_table_some]
    exact (trimmed_written dialect schema).append (dot.append (trimmed_written dialect name))

/-- What is written of a table is not blank. -/
theorem visible_quote_table (dialect : Dialect) (table : TableRef) :
    Text.isBlankText (dialect.quoteTable table) = false := by
  have opening : Text.isBlank dialect.opening = false := by cases dialect <;> decide
  obtain ⟨schema, name⟩ := table
  cases schema with
  | none => simp [Text.isBlankText, to_list_quote_table_none, written, enclose, opening]
  | some schema => simp [Text.isBlankText, to_list_quote_table_some, written, enclose, opening]

/-- A part that is read holds the dots that are read from it. -/
theorem count_le_of_unquote {dialect : Dialect} {part : List Char} {s : String}
    (reads : s = String.ofList (unquote part)) :
    (written dialect s).count '.' ≤ part.count '.' := by
  rw [count_written, reads, String.toList_ofList]
  exact (unquote_sublist part).count_le '.'

/-- What is written of a part is read as the part. -/
theorem unquote_written (dialect : Dialect) (part : String) :
    unquote (written dialect part) = part.toList :=
  unquote_enclose (style_mem_styles dialect) part.toList

/-- A name without a schema is read back exactly when it is not cut. -/
theorem parse_unqualified (dialect : Dialect) {name : String}
    (named : Text.isBlankText name = false) :
    parse (dialect.quoteTable ⟨none, name⟩) = .ok ⟨none, name⟩ ↔
      (through none (written dialect name)).isSome = true := by
  have trimmed := (trimmed_quote_table dialect ⟨none, name⟩).trim_eq
  rw [to_list_quote_table_none] at trimmed
  obtain ⟨last, before, cut⟩ := List.exists_cons_of_ne_nil
    (List.reverse_ne_nil_iff.mpr (parts_ne_nil none (written dialect name)))
  rw [parse_eq_ok_iff (visible_quote_table dialect _)
    (by rwa [to_list_quote_table_none, trimmed])]
  constructor
  · rintro ⟨_, reads, _⟩
    exact passes_of_count_le cut (count_le_of_unquote reads)
  · intro passes
    obtain ⟨after, passes⟩ := Option.isSome_iff_exists.mp passes
    rw [parts_of_through passes] at cut
    cases cut
    rw [unquote_written, String.ofList_toList]
    exact ⟨named, rfl, rfl⟩

/-- A name behind a schema is read back with it exactly when they are cut at the dot between
them. -/
theorem parse_qualified (dialect : Dialect) {schema name : String}
    (named : Text.isBlankText name = false) (schemaNamed : schema ≠ "") :
    parse (dialect.quoteTable ⟨some schema, name⟩) = .ok ⟨some schema, name⟩ ↔
      through none (written dialect schema) = some none ∧
        (through none (written dialect name)).isSome = true := by
  have trimmed := (trimmed_quote_table dialect ⟨some schema, name⟩).trim_eq
  rw [to_list_quote_table_some] at trimmed
  obtain ⟨last, before, cut⟩ := List.exists_cons_of_ne_nil (List.reverse_ne_nil_iff.mpr
    (parts_ne_nil none (written dialect schema ++ '.' :: written dialect name)))
  rw [parse_eq_ok_iff (visible_quote_table dialect _)
    (by rwa [to_list_quote_table_some, trimmed])]
  constructor
  · rintro ⟨_, reads, schemaReads⟩
    cases before with
    | nil => simp at schemaReads
    | cons first others =>
      have isSchema : schema = String.ofList (unquote first) := by
        simp only [List.head?_cons, Option.map_some, Option.filter_some] at schemaReads
        split at schemaReads
        · exact Option.some.inj schemaReads
        · simp at schemaReads
      exact passes_of_counts_le cut (count_le_of_unquote reads) (count_le_of_unquote isSchema)
  · rintro ⟨schemaPasses, namePasses⟩
    obtain ⟨after, passes⟩ := Option.isSome_iff_exists.mp namePasses
    have behind : parts none ('.' :: written dialect name) = [] :: [written dialect name] := by
      rw [parts, if_pos rfl, parts_of_through passes]
    rw [parts_append schemaPasses behind, List.append_nil] at cut
    cases cut
    have nonempty : schema.toList.isEmpty = false := by
      rw [List.isEmpty_eq_false_iff]
      exact fun empty => schemaNamed (String.toList_eq_nil_iff.mp empty)
    simp only [unquote_written, String.ofList_toList, List.head?_cons, Option.map_some,
      Option.filter_some, nonempty, Bool.not_false, if_true, and_true]
    exact named

end Written

section Brackets

/-- With quotes that open as they close, a doubled quote closes and opens again, so nothing inside
is outside. -/
theorem through_double {quote : Char} (opens : closingOf? quote = some quote)
    (noDot : quote ≠ '.') (s rest : List Char) :
    through (some quote) (double quote s ++ rest) = through (some quote) rest := by
  induction s with
  | nil => rfl
  | cons c others inductionHypothesis =>
    by_cases same : c = quote
    · subst same
      simpa [double, through, opens, noDot] using inductionHypothesis
    · simpa [double, through, same] using inductionHypothesis

/-- What is enclosed in such quotes leaves none open. -/
theorem through_enclose {quote : Char} (opens : closingOf? quote = some quote)
    (noDot : quote ≠ '.')
    (s : List Char) : through none (enclose quote quote s) = some none := by
  have inside := through_double opens noDot s [quote]
  simpa [enclose, through, opens, noDot] using inside

/-- A doubled closing bracket is read as a single one. -/
theorem through_brackets (closing : Option Char) (s rest : List Char) :
    through closing (double ']' s ++ rest) = through closing (s ++ rest) := by
  induction s generalizing closing with
  | nil => rfl
  | cons c others inductionHypothesis =>
    by_cases bracket : c = ']'
    · subst bracket
      cases closing with
      | none => simp [double, through, closingOf?, styles, inductionHypothesis]
      | some quote =>
        by_cases same : ']' = quote
        · subst same
          simp [double, through, closingOf?, styles, inductionHypothesis]
        · simp [double, through, same, inductionHypothesis]
    · cases closing with
      | none => simp [double, through, bracket, inductionHypothesis]
      | some quote => simp [double, through, bracket, inductionHypothesis]

/-- The quotes that are open after a part in brackets, with a doubled bracket read as a single
one; nothing where a dot in the part stands outside. -/
def afterBrackets (part : String) : Option (Option Char) :=
  through (some ']') (part.toList ++ [']'])

/-- What is written with double quotes leaves none open. -/
theorem through_written {dialect : Dialect} (quotes : dialect ≠ .sqlServer) (part : String) :
    through none (written dialect part) = some none := by
  have whole := through_enclose (by decide : closingOf? '"' = some '"') (by decide) part.toList
  cases dialect with
  | sqlite | postgres => exact whole
  | sqlServer => exact absurd rfl quotes

/-- What is written in brackets leaves open what the brackets inside do. -/
theorem through_written_sql_server (part : String) :
    through none (written .sqlServer part) = afterBrackets part := by
  have inside := through_brackets (some ']') part.toList [']']
  have whole : through none ('[' :: (double ']' part.toList ++ [']'])) = afterBrackets part := by
    simpa [through, closingOf?, styles, afterBrackets] using inside
  exact whole

end Brackets

/-- A table is read back from what is written of it, in every dialect with double quotes. In
brackets it is read back exactly when no dot of its parts seems to stand outside, where a closing
bracket in a part ends the quotes and an opening quote behind it begins new ones; and when the
schema leaves no quotes open that its own bracket does not close.

Proof: a table is read back exactly when a reading of its parts comes through the schema uncut and
is outside quotes again behind it, and comes through the name uncut. With double quotes it always
does; in brackets this is told by the contents of the parts alone. -/
theorem parse_quote_table (dialect : Dialect) (table : TableRef)
    (named : Text.isBlankText table.name = false) (schemaNamed : table.schema ≠ some "") :
    parse (dialect.quoteTable table) = .ok table ↔
      (dialect = .sqlServer → (∀ schema ∈ table.schema, afterBrackets schema = some none) ∧
        (afterBrackets table.name).isSome = true) := by
  have reads : parse (dialect.quoteTable table) = .ok table ↔
      (∀ schema ∈ table.schema, through none (written dialect schema) = some none) ∧
        (through none (written dialect table.name)).isSome = true := by
    obtain ⟨schema, name⟩ := table
    cases schema with
    | none => simpa using parse_unqualified dialect named
    | some schema =>
      simpa using parse_qualified dialect named fun empty => schemaNamed (congrArg some empty)
  rw [reads]
  by_cases brackets : dialect = .sqlServer
  · subst brackets
    simp only [through_written_sql_server, true_imp_iff]
  · simp [through_written brackets, brackets]

/-- A schema with quotes and a dot in it and a name with brackets that pair are read back. -/
theorem parse_quote_table_paired :
    Text.isBlankText "x][y.z" = false ∧ some "my \"odd\".schema" ≠ some "" ∧
      parse (Dialect.sqlServer.quoteTable ⟨some "my \"odd\".schema", "x][y.z"⟩) =
        .ok ⟨some "my \"odd\".schema", "x][y.z"⟩ :=
  ⟨by decide, by decide,
    (parse_quote_table .sqlServer ⟨some "my \"odd\".schema", "x][y.z"⟩ (by decide)
      (by decide)).mpr (by decide)⟩

/-- A name with a closing bracket and a dot behind it is taken for a schema and a name. -/
theorem parse_quote_table_cut :
    Text.isBlankText "a].b" = false ∧
      parse (Dialect.sqlServer.quoteTable ⟨none, "a].b"⟩) = .ok ⟨some "a]", "b]"⟩ ∧
        parse (Dialect.sqlServer.quoteTable ⟨none, "a].b"⟩) ≠ .ok ⟨none, "a].b"⟩ := by
  have cut :
      parse (Dialect.sqlServer.quoteTable ⟨none, "a].b"⟩) = .ok ⟨some "a]", "b]"⟩ := rfl
  refine ⟨by decide, cut, ?_⟩
  rw [cut]
  simp

end TableName

end SqlAccess
