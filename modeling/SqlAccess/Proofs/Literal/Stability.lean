import SqlAccess.Proofs.Literal.IntegerDefault

/-!
# Defaults that come from a catalog

A default that is read from a catalog and written as a literal is settled: when it is stored and
read again, it is written in the same way. Only under the types whose numbers have a fraction may
its spelling still change, with the number kept. The kind of literal may change on the way, from a
quoted text to a number, from a truth value or bytes to a text.

Main statement: `normalized_stable`.
-/

namespace SqlAccess

/-- The same default under a logical type: the same text, or the same number where the type has
fractions. -/
def LogicalType.SameDefault (logical : LogicalType) (t again : String) : Prop :=
  again = t ∨
    (logical = .float ∨ logical = .double ∨ logical = .decimal) ∧
      ∃ number, numberIn? t.toList = some number ∧ numberIn? again.toList = some number

namespace Literal

section Catalogued

/-- What a catalog gives: never a binary fraction, and the whole text where it is no literal. -/
structure Catalogued (s : List Char) (value : Literal) : Prop where
  inexact : ∀ x, value ≠ .float x
  verbatim : ∀ sql, value = .expression sql → sql = String.ofList s

/-- A literal of every dialect is catalogued. -/
theorem read_plain_catalogued {s : List Char} {value : Literal} (read : readPlain s = some value) :
    Catalogued s value := by
  unfold readPlain at read
  constructor
  · rintro x rfl
    revert read
    repeat' split
    all_goals simp
  · rintro sql rfl
    revert read
    repeat' split
    all_goals simp +contextual [eq_comm]

/-- What a dialect reads is catalogued. -/
theorem read_bare_catalogued {dialect : Dialect} {s : List Char} {value : Literal}
    (read : readBare dialect s = some value) : Catalogued s value := by
  cases dialect with
  | sqlite =>
    simp only [readBare, readSqlite] at read
    split at read
    · cases read
      exact ⟨by simp, by simp⟩
    · split at read
      · cases read
        exact ⟨by simp, by simp⟩
      · exact read_plain_catalogued read
  | postgres =>
    simp only [readBare, readPostgres] at read
    split at read
    · exact read_plain_catalogued read
    · split at read
      · cases read
        exact ⟨by simp, by simp⟩
      · split at read
        · cases read
          exact ⟨by simp, by simp⟩
        · cases read
          exact ⟨by simp, by simp⟩
        · rename_i noExpression
          refine ⟨(read_plain_catalogued read).inexact, ?_⟩
          rintro sql rfl
          exact absurd read (noExpression sql)
  | sqlServer =>
    simp only [readBare, readSqlServer] at read
    split at read
    · cases read
      exact ⟨by simp, by simp⟩
    · split at read
      · cases read
        exact ⟨by simp, by simp⟩
      · exact read_plain_catalogued read

/-- An expression is read again as the same expression. -/
theorem of_catalog_expression {dialect : Dialect} {raw sql : String}
    (read : ofCatalog dialect raw = some (.expression sql)) :
    ofCatalog dialect sql = some (.expression sql) := by
  rw [of_catalog_eq] at read ⊢
  have whole := (read_bare_catalogued read).verbatim sql rfl
  rw [whole, String.toList_ofList, strip_parens_strip_parens, read, whole]

end Catalogued

section Numbers

/-- The text of an integer of 64 signed bits is read as this integer. -/
theorem read_numeral_int_text (i : Int64) :
    readNumeral (Decimal.intText i.toInt).toList = .int i := by
  simp only [readNumeral, Decimal.intText, String.toList_ofList,
    Decimal.int64_value?_of_int (Decimal.fits_to_int i), Int64.ofInt_toInt]

/-- The text of a decimal that is read from a decimal text is this text. -/
theorem decimal_text?_decimal {t : String} (decimal : isDecimalText t.toList = true) :
    (Literal.decimal t).decimalText? = some t := by
  have trimmed : Text.Trimmed t.toList := (Bare.of_is_decimal_text decimal).trimmed
  simp [decimalText?, numeral?, trimmed.trim_eq, decimal]

/-- What is read of a decimal text is written as the same number, with a fraction or not. -/
theorem read_numeral_rewritten {t : String} (decimal : isDecimalText t.toList = true) :
    ∃ again, formatFloat (readNumeral t.toList) = .ok again ∧
      formatDecimal (readNumeral t.toList) = .ok again ∧
      ∃ number, numberIn? t.toList = some number ∧ numberIn? again.toList = some number := by
  have known : (numberIn? t.toList).isSome = true := by rw [number_in?_is_some, decimal]
  obtain ⟨number, stated⟩ := Option.isSome_iff_exists.mp known
  have denoted := (number?_read_numeral t.toList).trans stated
  unfold readNumeral at denoted ⊢
  split
  · rename_i i reads
    simp only [reads] at denoted
    refine ⟨Decimal.intText (Int64.ofInt i).toInt, rfl, rfl, number, stated, ?_⟩
    rw [Decimal.intText, String.toList_ofList,
      number_in?_of_int_value? (Decimal.int_value?_of_int _)]
    exact denoted
  · rw [String.ofList_toList]
    have same := decimal_text?_decimal decimal
    refine ⟨t, ?_, ?_, number, stated, stated⟩
    · simp [formatFloat, same, orRefuse]
    · simp [formatDecimal, same]

/-- What is read of a decimal text is written as a value. -/
theorem format_read_numeral (dialect : Dialect) (logical : LogicalType) (s : List Char) :
    format dialect logical (some (readNumeral s)) =
      formatValue dialect logical (readNumeral s) := by
  unfold readNumeral
  split <;> rfl

end Numbers

section Texts

/-- A date that was read as a text is the same day. -/
theorem as_timestamp_date_text (date : Calendar.Date) :
    (Literal.text (String.ofList date.text)).asTimestamp = some ⟨date, .midnight⟩ := by
  have trimmed : Text.Trimmed date.text := Text.trimmed_of_forall fun c member =>
    Calendar.not_blank_of_date_ink (date.date_ink_text c member)
  have spaced : Calendar.Read.spacedTimestamp? date.text = none :=
    Calendar.Read.timestamp_with_date date (Or.inl rfl)
  have marked : Calendar.Read.timestampT? date.text = none :=
    Calendar.Read.timestamp_with_date date (Or.inr rfl)
  simp [asTimestamp, trimmed.trim_eq, spaced, marked, Calendar.Read.date?_text]

/-- A time of day that was read as a text has the same clock text. -/
theorem as_time_clock_text (time : Calendar.TimeOfDay) :
    ∃ again, (Literal.text (String.ofList time.clockText)).asTime = some again ∧
      again.clockText = time.clockText := by
  have trimmed : Text.Trimmed time.clockText := Text.trimmed_of_forall fun c member =>
    Calendar.not_blank_of_date_ink (time.date_ink_clock_text c member)
  obtain ⟨again, reads, same⟩ := Calendar.Read.time?_clock_text time
  exact ⟨again, by simp [asTime, trimmed.trim_eq, reads], same⟩

/-- A timestamp that was read as a text has the same clock text. -/
theorem as_timestamp_clock_text (ts : Calendar.Timestamp) :
    ∃ again, (Literal.text (String.ofList ts.clockText)).asTimestamp = some again ∧
      again.clockText = ts.clockText := by
  have trimmed : Text.Trimmed ts.clockText := by
    have date : Text.Trimmed ts.date.text := Text.trimmed_of_forall fun c member =>
      Calendar.not_blank_of_date_ink (ts.date.date_ink_text c member)
    have time : Text.Trimmed ts.time.clockText := Text.trimmed_of_forall fun c member =>
      Calendar.not_blank_of_date_ink (ts.time.date_ink_clock_text c member)
    have around := date.around time (by simp [Calendar.Date.text])
      (by simp [Calendar.TimeOfDay.clockText]) [' ']
    rwa [List.append_assoc] at around
  obtain ⟨again, reads, same⟩ := Calendar.Read.spaced_timestamp?_clock_text ts
  exact ⟨again, by simp [asTimestamp, trimmed.trim_eq, reads], same⟩

/-- A GUID that was read as a text is the same GUID. -/
theorem as_guid_text (guid : Guid) :
    (Literal.text (String.ofList guid.text)).asGuid = some guid := by
  have each : "0123456789abcdef-".toList.all (fun c => !Text.isBlank c) = true := by decide
  have trimmed : Text.Trimmed guid.text := Text.trimmed_of_forall fun c member => by
    simpa using List.all_eq_true.mp each c (guid.mem_text c member)
  simp [asGuid, trimmed.trim_eq, Guid.parse?_text]

end Texts

/-- What is written of a value is read as one that is written in the same way. -/
theorem format_value_stable {dialect : Dialect} {logical : LogicalType} {value : Literal}
    {t : String} (inexact : ∀ x, value ≠ .float x)
    (written : formatValue dialect logical value = .ok t) :
    ∃ read again, Shows dialect t read ∧ format dialect logical (some read) = .ok again ∧
      logical.SameDefault t again := by
  unfold formatValue at written
  cases logical with
  | tinyInt | smallInt | int | bigInt =>
    obtain ⟨i, rfl, _⟩ := format_integer_eq inexact written
    have shows := shows_numeral dialect (is_decimal_text_int_text i.toInt)
    rw [read_numeral_int_text] at shows
    exact ⟨_, _, shows, rfl, Or.inl rfl⟩
  | float | double =>
    have decimal := is_decimal_text_format_float written
    obtain ⟨again, rewritten, _, kept⟩ := read_numeral_rewritten decimal
    exact ⟨_, again, shows_numeral dialect decimal, (format_read_numeral _ _ _).trans rewritten,
      Or.inr ⟨by simp, kept⟩⟩
  | decimal =>
    have decimal := is_decimal_text_format_decimal written
    obtain ⟨again, _, rewritten, kept⟩ := read_numeral_rewritten decimal
    exact ⟨_, again, shows_numeral dialect decimal, (format_read_numeral _ _ _).trans rewritten,
      Or.inr ⟨by simp, kept⟩⟩
  | boolean =>
    obtain ⟨truth, _, rfl⟩ := Option.map_eq_some_iff.mp (eq_some_of_or_refuse written)
    rcases shows_bool_literal dialect truth with word | number
    · exact ⟨_, _, word, rfl, Or.inl rfl⟩
    · refine ⟨_, _, number, ?_, Or.inl rfl⟩
      cases truth <;> rfl
  | string | text | other =>
    cases written
    exact ⟨_, _, shows_text_literal dialect value.asText, rfl, Or.inl rfl⟩
  | xml =>
    cases written
    exact ⟨_, _, shows_xml_literal dialect value.asText, rfl, Or.inl rfl⟩
  | date =>
    obtain ⟨ts, _, rfl⟩ := Option.map_eq_some_iff.mp (eq_some_of_or_refuse written)
    refine ⟨_, _, shows_quote_text dialect (String.ofList ts.date.text), ?_, Or.inl rfl⟩
    simp [format, formatValue, as_timestamp_date_text, orRefuse]
  | time =>
    obtain ⟨time, _, rfl⟩ := Option.map_eq_some_iff.mp (eq_some_of_or_refuse written)
    obtain ⟨again, reads, same⟩ := as_time_clock_text time
    refine ⟨_, _, shows_quote_text dialect (String.ofList time.clockText), ?_, Or.inl rfl⟩
    simp [format, formatValue, reads, same, orRefuse]
  | dateTime | dateTime2 | dateTimeOffset =>
    obtain ⟨ts, _, rfl⟩ := Option.map_eq_some_iff.mp (eq_some_of_or_refuse written)
    obtain ⟨again, reads, same⟩ := as_timestamp_clock_text ts
    refine ⟨_, _, shows_quote_text dialect (String.ofList ts.clockText), ?_, Or.inl rfl⟩
    simp [format, formatValue, reads, same, orRefuse]
  | guid =>
    obtain ⟨guid, _, rfl⟩ := Option.map_eq_some_iff.mp (eq_some_of_or_refuse written)
    refine ⟨_, _, shows_quote_text dialect (String.ofList guid.text), ?_, Or.inl rfl⟩
    simp [format, formatValue, as_guid_text, orRefuse]
  | binary =>
    cases value with
    | bytes content =>
      cases written
      exact ⟨_, _, shows_bytes_literal dialect content, rfl, Or.inl rfl⟩
    | _ => cases written

/-- A default from a catalog that is written, stored and read again is written in the same way, or,
under a type with fractions, as the same number.

Proof: NULL and expressions are written as they were read. What else a catalog gives is never a
binary fraction, and for each type the text of such a value shows a literal that is written in the
same way again or as the same number. -/
theorem normalized_stable {dialect : Dialect} {logical : LogicalType} {raw : String}
    {value : Literal} {t : String} (read : ofCatalog dialect raw = some value)
    (written : format dialect logical (some value) = .ok t) :
    ∃ reread again, ofCatalog dialect t = some reread ∧
      format dialect logical (some reread) = .ok again ∧ logical.SameDefault t again := by
  cases value with
  | null =>
    cases written
    exact ⟨.null, _, (shows_null dialect).of_catalog, rfl, Or.inl rfl⟩
  | expression sql =>
    cases written
    exact ⟨_, _, of_catalog_expression read, rfl, Or.inl rfl⟩
  | _ =>
    have catalogued := read_bare_catalogued ((of_catalog_eq dialect raw).symm.trans read)
    obtain ⟨reread, again, shows, rewritten, same⟩ :=
      format_value_stable catalogued.inexact written
    exact ⟨reread, again, shows.of_catalog, rewritten, same⟩

/-- A quoted number in a layer, under a decimal type: its sign is lost, its number is kept. -/
theorem normalized_stable_signed :
    ∃ reread again, ofCatalog .sqlite "+5" = some reread ∧
      format .sqlite .decimal (some reread) = .ok again ∧
      LogicalType.decimal.SameDefault "+5" again := by
  have layered : Wraps (quoteText "+5").toList "('+5')".toList := Wraps.layer Wraps.itself
  have read : ofCatalog .sqlite "('+5')" = some (.text "+5") :=
    (shows_quote_text .sqlite "+5").of_catalog_wraps layered
  exact normalized_stable read (by decide)

end Literal

end SqlAccess
