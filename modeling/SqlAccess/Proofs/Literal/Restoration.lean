import SqlAccess.Proofs.Calendar.Reread
import SqlAccess.Proofs.Literal.Reading
import SqlAccess.Proofs.Literal.StatementNumber

/-!
# Defaults restored from a catalog

A catalog may put layers of parentheses, with blanks around them, around a default that it was
given. What is read back then is still a literal, and it stands for the value that was written: the
same text, the same bytes, the same truth value, the number that stands in the literal. Dates, times
and GUIDs come back as their texts. This holds for every dialect, every logical type and every value
that the type can hold.

Main statement: `format_restored`.
-/

namespace SqlAccess.Literal

/-- What is read back stands for the value that a literal of a logical type was written for. -/
def StandsFor (logical : LogicalType) (value : Literal) (t : String) (read : Literal) : Prop :=
  match logical with
  | .tinyInt | .smallInt | .int | .bigInt | .float | .double | .decimal =>
    ∃ number, numberIn? t.toList = some number ∧ read.number? = some number
  | .boolean =>
    ∃ truth, value.asBool = some truth ∧
      (read = .bool truth ∨ read = .int (if truth then 1 else 0))
  | .string | .text | .xml | .other => read = .text value.asText
  | .date | .time | .dateTime | .dateTime2 | .dateTimeOffset | .guid =>
    ∃ content, t.toList = '\'' :: (content ++ ['\'']) ∧ '\'' ∉ content ∧
      read = .text (String.ofList content)
  | .binary => ∃ content, value = .bytes content ∧ read = .bytes content

/-- What is read back is a literal again, no value where none was written, and else a literal that
stands for the value. -/
structure Restores (logical : LogicalType) (value : Literal) (t : String) (read : Literal) :
    Prop where
  literal : ∀ sql, read ≠ .expression sql
  absent : value = .null → read = .null
  present : value ≠ .null → StandsFor logical value t read

section Numbers

/-- What was not refused was found. -/
theorem eq_some_of_or_refuse {logical : LogicalType} {value : Literal} {found : Option String}
    {t : String} (written : orRefuse logical value found = .ok t) : found = some t := by
  cases found with
  | none => simp [orRefuse] at written
  | some literal => simpa [orRefuse] using written

/-- What is written of an integer is a decimal text. -/
theorem is_decimal_text_int_text (i : Int) : isDecimalText (Decimal.intText i).toList = true := by
  rw [Decimal.intText, String.toList_ofList]
  exact is_decimal_text_of_int i

/-- The text of a decimal is a decimal text. -/
theorem is_decimal_text_of_decimal_text? {value : Literal} {t : String}
    (found : value.decimalText? = some t) : isDecimalText t.toList = true := by
  obtain ⟨s, numeral, rfl⟩ := Option.map_eq_some_iff.mp found
  rw [String.toList_ofList]
  exact (Option.filter_eq_some_iff.mp numeral).2

/-- An integer literal is a decimal text. -/
theorem is_decimal_text_format_integer {value : Literal} {t : String}
    (written : formatInteger value = .ok t) : isDecimalText t.toList = true := by
  have found := eq_some_of_or_refuse written
  split at found
  · cases found
    exact is_decimal_text_int_text _
  · cases found
    split <;> decide
  · split at found
    · rename_i x integral
      cases found
      unfold Binary64.isIntegral at integral
      exact Binary64.is_decimal_text_statement_text (Bool.and_eq_true_iff.mp integral).1
    · simp at found
  · obtain ⟨i, _, rfl⟩ := Option.map_eq_some_iff.mp found
    exact is_decimal_text_int_text i

/-- A floating-point literal is a decimal text. -/
theorem is_decimal_text_format_float {value : Literal} {t : String}
    (written : formatFloat value = .ok t) : isDecimalText t.toList = true := by
  unfold formatFloat at written
  split at written
  · split at written
    · rename_i x finite
      cases written
      exact Binary64.is_decimal_text_statement_text finite
    · simp at written
  · cases written
    exact is_decimal_text_int_text _
  · exact is_decimal_text_of_decimal_text? (eq_some_of_or_refuse written)

/-- A decimal literal is a decimal text. -/
theorem is_decimal_text_format_decimal {value : Literal} {t : String}
    (written : formatDecimal value = .ok t) : isDecimalText t.toList = true := by
  unfold formatDecimal at written
  split at written
  · rename_i literal found
    cases written
    exact is_decimal_text_of_decimal_text? found
  · exact is_decimal_text_format_float written

/-- A decimal text is read back as the number in it. -/
theorem numeral_restored (dialect : Dialect) {t : String}
    (decimal : isDecimalText t.toList = true) :
    ∃ read, Shows dialect t read ∧
      ∃ number, numberIn? t.toList = some number ∧ read.number? = some number := by
  have known : (numberIn? t.toList).isSome = true := by rw [number_in?_is_some, decimal]
  obtain ⟨number, written⟩ := Option.isSome_iff_exists.mp known
  exact ⟨readNumeral t.toList, shows_numeral dialect decimal, number, written,
    (number?_read_numeral t.toList).trans written⟩

end Numbers

section Texts

/-- Quoted characters are read back as they stand between the quotes. -/
theorem quote_chars_restored (dialect : Dialect) {content : List Char}
    (unquoted : '\'' ∉ content) :
    ∃ read, Shows dialect (quoteChars content) read ∧
      ∃ between, (quoteChars content).toList = '\'' :: (between ++ ['\'']) ∧
        '\'' ∉ between ∧
        read = .text (String.ofList between) := by
  refine ⟨_, shows_quote_text dialect (String.ofList content), content, ?_, unquoted, rfl⟩
  rw [quoteChars, quoteText, String.toList_ofList, String.toList_ofList, Text.Quoted.enclose,
    Text.Quoted.double_of_not_mem unquoted]

/-- No quote stands in a date. -/
theorem unquoted_date (date : Calendar.Date) : '\'' ∉ date.text :=
  fun quote => absurd (date.date_ink_text '\'' quote) (by decide)

/-- No quote stands in a time of day. -/
theorem unquoted_time (time : Calendar.TimeOfDay) : '\'' ∉ time.clockText :=
  fun quote => absurd (time.date_ink_clock_text '\'' quote) (by decide)

/-- No quote stands in a timestamp. -/
theorem unquoted_timestamp (ts : Calendar.Timestamp) : '\'' ∉ ts.clockText := by
  simp only [Calendar.Timestamp.clockText, List.mem_append, List.mem_cons, not_or]
  exact ⟨unquoted_date ts.date, by decide, unquoted_time ts.time⟩

/-- No quote stands in a GUID. -/
theorem unquoted_guid (guid : Guid) : '\'' ∉ guid.text :=
  fun quote => absurd (guid.mem_text '\'' quote) (by decide)

end Texts

/-- What stands for a value is no expression. -/
theorem StandsFor.literal {logical : LogicalType} {value read : Literal} {t : String}
    (stands : StandsFor logical value t read) : ∀ sql, read ≠ .expression sql := by
  rintro sql rfl
  unfold StandsFor at stands
  split at stands <;> simp [number?] at stands

/-- What is written of a value is read as a literal that stands for it. -/
theorem format_value_restored {dialect : Dialect} {logical : LogicalType} {value : Literal}
    {t : String} (written : formatValue dialect logical value = .ok t) :
    ∃ read, Shows dialect t read ∧ StandsFor logical value t read := by
  unfold formatValue at written
  cases logical with
  | tinyInt | smallInt | int | bigInt =>
    exact numeral_restored dialect (is_decimal_text_format_integer written)
  | float | double => exact numeral_restored dialect (is_decimal_text_format_float written)
  | decimal => exact numeral_restored dialect (is_decimal_text_format_decimal written)
  | boolean =>
    obtain ⟨truth, stated, rfl⟩ := Option.map_eq_some_iff.mp (eq_some_of_or_refuse written)
    rcases shows_bool_literal dialect truth with word | number
    · exact ⟨_, word, truth, stated, Or.inl rfl⟩
    · exact ⟨_, number, truth, stated, Or.inr rfl⟩
  | string | text | other =>
    cases written
    exact ⟨_, shows_text_literal dialect value.asText, rfl⟩
  | xml =>
    cases written
    exact ⟨_, shows_xml_literal dialect value.asText, rfl⟩
  | date =>
    obtain ⟨ts, _, rfl⟩ := Option.map_eq_some_iff.mp (eq_some_of_or_refuse written)
    exact quote_chars_restored dialect (unquoted_date ts.date)
  | time =>
    obtain ⟨time, _, rfl⟩ := Option.map_eq_some_iff.mp (eq_some_of_or_refuse written)
    exact quote_chars_restored dialect (unquoted_time time)
  | dateTime | dateTime2 | dateTimeOffset =>
    obtain ⟨ts, _, rfl⟩ := Option.map_eq_some_iff.mp (eq_some_of_or_refuse written)
    exact quote_chars_restored dialect (unquoted_timestamp ts)
  | guid =>
    obtain ⟨guid, _, rfl⟩ := Option.map_eq_some_iff.mp (eq_some_of_or_refuse written)
    exact quote_chars_restored dialect (unquoted_guid guid)
  | binary =>
    cases value with
    | bytes content =>
      cases written
      exact ⟨_, shows_bytes_literal dialect content, content, rfl, rfl⟩
    | _ => cases written

/-- A default that is written as a literal is read back, whatever layers a catalog puts around it,
as a literal that stands for it.

Proof: every value is written as a text that shows a literal in the dialect, whatever stands around
it, and the literal that is shown stands for the value. The cases are those of the writer. Layers
and blanks do not change what is shown, because a shown text is bare. -/
theorem format_restored {dialect : Dialect} {logical : LogicalType} {value : Literal} {t w : String}
    (literal : ∀ sql, value ≠ .expression sql)
    (written : format dialect logical (some value) = .ok t) (wraps : Wraps t.toList w.toList) :
    ∃ read, ofCatalog dialect w = some read ∧ Restores logical value t read := by
  by_cases null : value = .null
  · subst null
    cases written
    refine ⟨.null, (shows_null dialect).of_catalog_wraps wraps, ?_⟩
    exact { literal := by simp, absent := fun _ => rfl, present := fun some => absurd rfl some }
  · have value_written : formatValue dialect logical value = .ok t := by
      unfold format at written
      split at written <;> simp_all
    obtain ⟨read, shows, stands⟩ := format_value_restored value_written
    refine ⟨read, shows.of_catalog_wraps wraps, ?_⟩
    exact { literal := stands.literal, absent := fun none => absurd none null
            present := fun _ => stands }

/-- A text with a quote, parentheses and a double colon in it, in two layers with blanks. -/
theorem format_restored_layered :
    ∃ read, ofCatalog .postgres " ( ('it''s (a)::b'::xml)\n) " = some read ∧
      Restores .xml (.text "it's (a)::b") "'it''s (a)::b'::xml" read := by
  have inner : Wraps "'it''s (a)::b'::xml".toList "('it''s (a)::b'::xml)".toList :=
    Wraps.layer Wraps.itself
  have spaced : Wraps "'it''s (a)::b'::xml".toList " ('it''s (a)::b'::xml)\n".toList :=
    inner.spaced " ".toList "\n".toList (by decide) (by decide)
  have outer : Wraps "'it''s (a)::b'::xml".toList "( ('it''s (a)::b'::xml)\n)".toList :=
    Wraps.layer spaced
  have whole : Wraps "'it''s (a)::b'::xml".toList " ( ('it''s (a)::b'::xml)\n) ".toList :=
    outer.spaced " ".toList " ".toList (by decide) (by decide)
  exact format_restored (by simp) (by decide) whole

end SqlAccess.Literal
