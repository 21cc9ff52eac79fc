import SqlAccess.Literal.Format
import SqlAccess.Proofs.Literal.Layers
import SqlAccess.Proofs.Literal.Numeral

/-!
# Reading the shapes that are written

A literal is a quoted text, bare or behind a letter or before a cast, or bytes in hexadecimal
digits, or a decimal text, or a word. What a catalog makes of each of these shapes is said here, for
every dialect and every content. A quoted text may hold quotes, parentheses and colons: the scans
for a layer and for a cast pass over it.
-/

namespace SqlAccess.Literal

section Bare

/-- A character that is no blank, no quote and no parenthesis. -/
def inert (c : Char) : Bool := !Text.isBlank c && c != '\'' && c != '(' && c != ')'

/-- A text that taking off parentheses leaves as it is, and around which layers are redundant. -/
structure Bare (t : List Char) : Prop where
  trimmed : Text.Trimmed t
  unopened : ∀ c ∈ t.head?, c ≠ '('
  balanced : Balanced t

/-- Layers come off down to a bare text. -/
theorem Bare.strip_parens_eq {t : List Char} (bare : Bare t) : stripParens t = t := by
  have unlayered : peel? t = none := by
    unfold peel? Text.Quoted.inside?
    cases t with
    | nil => rfl
    | cons c rest => simp [bare.unopened c rfl]
  exact strip_parens_of_bare bare.trimmed unlayered

/-- Bare texts one behind the other are bare. -/
theorem Bare.append {s rest : List Char} (first : Bare s) (second : Bare rest) :
    Bare (s ++ rest) where
  trimmed := first.trimmed.append second.trimmed
  unopened := by
    intro c found
    rw [List.head?_append, Option.mem_def, Option.or_eq_some_iff] at found
    rcases found with own | ⟨_, other⟩
    · exact first.unopened c own
    · exact second.unopened c other
  balanced := first.balanced.append second.balanced

/-- A text of inert characters is bare. -/
theorem Bare.of_inert {t : List Char} (all : t.all inert = true) : Bare t := by
  have each (c : Char) (member : c ∈ t) :
      Text.isBlank c = false ∧ c ≠ '\'' ∧ c ≠ '(' ∧ c ≠ ')' := by
    simpa [inert, and_assoc] using List.all_eq_true.mp all c member
  constructor
  · exact Text.trimmed_of_forall fun c member => (each c member).1
  · exact fun c first => (each c (List.mem_of_mem_head? first)).2.2.1
  · exact balanced_of_plain fun c member => (each c member).2

/-- A quoted text is bare. -/
theorem Bare.enclose (s : List Char) : Bare (Text.Quoted.enclose '\'' '\'' s) where
  trimmed := Text.trimmed_of_ends (by decide) _ (by decide)
  unopened := by
    rintro c ⟨⟩
    decide
  balanced := balanced_enclose s

end Bare

section Casts

/-- The scan for a cast passes over what stands in a quote. -/
theorem cut_at_cast_double (depth : Int) (s rest : List Char) :
    cutAtCast depth true (Text.Quoted.double '\'' s ++ rest) =
      (cutAtCast depth true rest).map fun sides =>
        (Text.Quoted.double '\'' s ++ sides.1, sides.2) := by
  induction s with
  | nil => simp [Text.Quoted.double]
  | cons c others inductionHypothesis =>
    by_cases quote : c = '\''
    · simp [Text.Quoted.double, quote, cutAtCast, inductionHypothesis, Function.comp_def]
    · simp [Text.Quoted.double, quote, cutAtCast, inductionHypothesis, Function.comp_def]

/-- The scan for a cast passes over a quoted text. -/
theorem cut_at_cast_enclose (depth : Int) (s rest : List Char) :
    cutAtCast depth false (Text.Quoted.enclose '\'' '\'' s ++ rest) =
      (cutAtCast depth false rest).map fun sides =>
        (Text.Quoted.enclose '\'' '\'' s ++ sides.1, sides.2) := by
  simp [Text.Quoted.enclose, cutAtCast, cut_at_cast_double, Function.comp_def]

/-- A text without a colon has no cast. -/
theorem cut_at_cast_of_not_mem {s : List Char} (absent : ':' ∉ s) (depth : Int) (quoted : Bool) :
    cutAtCast depth quoted s = none := by
  induction s generalizing depth quoted with
  | nil => rfl
  | cons c rest inductionHypothesis =>
    simp only [List.mem_cons, not_or] at absent
    simp [cutAtCast, inductionHypothesis absent.2, Ne.symm absent.1]

end Casts

section Shapes

/-- What a dialect makes of a default whose parentheses are taken off. -/
def readBare : Dialect → List Char → Option Literal
  | .sqlite => readSqlite
  | .postgres => readPostgres
  | .sqlServer => readSqlServer

/-- A default is read without its parentheses. -/
theorem of_catalog_eq (dialect : Dialect) (raw : String) :
    ofCatalog dialect raw = readBare dialect (stripParens raw.toList) := by
  cases dialect <;> rfl

/-- A bare text that a dialect reads as a literal. -/
structure Shows (dialect : Dialect) (t : String) (value : Literal) : Prop where
  bare : Bare t.toList
  reads : readBare dialect t.toList = some value

/-- Layers around a literal are of no account to what a catalog makes of it. -/
theorem Shows.of_catalog_wraps {dialect : Dialect} {t w : String} {value : Literal}
    (shows : Shows dialect t value) (wraps : Wraps t.toList w.toList) :
    ofCatalog dialect w = some value := by
  rw [of_catalog_eq, wraps.strip_parens_eq shows.bare.balanced, shows.bare.strip_parens_eq,
    shows.reads]

/-- A literal without layers is read as it stands. -/
theorem Shows.of_catalog {dialect : Dialect} {t : String} {value : Literal}
    (shows : Shows dialect t value) : ofCatalog dialect t = some value :=
  shows.of_catalog_wraps Wraps.itself

/-- Texts whose first letters differ are different words. -/
theorem same_ignoring_ascii_case_cons {c d : Char} (different : c.toLower ≠ d.toLower)
    (s t : List Char) : Text.sameIgnoringAsciiCase (c :: s) (d :: t) = false := by
  simp [Text.sameIgnoringAsciiCase, Text.lowerAscii, different]

/-- A text that begins with none of the marks of a dialect is read in the same way in all. -/
theorem read_bare_eq_read_plain {c : Char} {rest : List Char}
    (uncast : cutAtCast 0 false (c :: rest) = none) (unmarked : c ∉ ['X', 'x', '"', 'N', 'n'])
    (unprefixed : c = '0' → rest.head? ≠ some 'x' ∧ rest.head? ≠ some 'X')
    (dialect : Dialect) :
    readBare dialect (c :: rest) = readPlain (c :: rest) := by
  simp only [List.mem_cons, List.not_mem_nil, or_false, not_or] at unmarked
  obtain ⟨upperX, lowerX, doubleQuote, upperN, lowerN⟩ := unmarked
  cases dialect with
  | sqlite =>
    simp [readBare, readSqlite, readHexQuoted, Text.Quoted.inside?, upperX, lowerX, doubleQuote]
  | postgres => simp only [readBare, readPostgres, uncast]
  | sqlServer =>
    simp only [readBare, readSqlServer, upperN, lowerN, or_self, if_false]
    split
    · rename_i content hexadecimal
      split at hexadecimal
      · rename_i x digits same
        cases same
        simp_all
      · simp at hexadecimal
    · rfl

/-- What stands in quotes. -/
theorem unquote_text_enclose (s : List Char) :
    unquoteText (Text.Quoted.enclose '\'' '\'' s) = some (String.ofList s) := by
  rw [unquoteText, Text.Quoted.disclose_enclose, Option.map_some]

/-- A quoted text is a text. -/
theorem read_plain_enclose (s : List Char) :
    readPlain (Text.Quoted.enclose '\'' '\'' s) = some (.text (String.ofList s)) := by
  have word : Text.sameIgnoringAsciiCase (Text.Quoted.enclose '\'' '\'' s) "null".toList = false :=
    same_ignoring_ascii_case_cons (by decide) _ _
  have nonempty : (Text.Quoted.enclose '\'' '\'' s).isEmpty = false := rfl
  simp only [readPlain, nonempty, word, unquote_text_enclose, Bool.false_eq_true, if_false]

/-- A quoted text is a text, in every dialect. -/
theorem shows_quote_text (dialect : Dialect) (s : String) :
    Shows dialect (quoteText s) (.text s) := by
  have whole : (quoteText s).toList = Text.Quoted.enclose '\'' '\'' s.toList :=
    String.toList_ofList
  have uncast : cutAtCast 0 false (Text.Quoted.enclose '\'' '\'' s.toList) = none := by
    have scanned := cut_at_cast_enclose 0 s.toList []
    rwa [List.append_nil] at scanned
  constructor
  · rw [whole]
    exact Bare.enclose s.toList
  · have plain := read_bare_eq_read_plain uncast (by decide) (by simp) dialect
    rw [whole]
    exact plain.trans ((read_plain_enclose s.toList).trans (by rw [String.ofList_toList]))

/-- What is read of a decimal text: an integer where it is one of 64 signed bits. -/
def readNumeral (s : List Char) : Literal :=
  match Decimal.int64Value? s with
  | some i => .int (Int64.ofInt i)
  | none => .decimal (String.ofList s)

/-- What is read of a decimal text denotes the number in it. -/
theorem number?_read_numeral (s : List Char) : (readNumeral s).number? = numberIn? s := by
  unfold readNumeral
  split
  · rename_i i reads
    obtain ⟨integer, fits⟩ := Decimal.fits_of_int64_value? reads
    rw [number?, Decimal.to_int_of_int_of_fits fits, number_in?_of_int_value? integer]
  · rw [number?, String.toList_ofList]

/-- No character of a decimal text begins a word, nor is it the mark of a dialect. -/
theorem plain_of_numeral_ink {c : Char} (ink : c ∈ numeralInk) :
    inert c = true ∧ c.toLower ∉ ['n', 't', 'f'] ∧ c ∉ ['X', 'x', '"', 'N', 'n'] := by
  have each : numeralInk.all (fun c => inert c && c.toLower ∉ ['n', 't', 'f'] &&
      c ∉ ['X', 'x', '"', 'N', 'n']) = true := by decide
  simpa only [Bool.and_eq_true, decide_eq_true_eq, and_assoc] using
    List.all_eq_true.mp each c ink

/-- A decimal text is bare. -/
theorem Bare.of_is_decimal_text {s : List Char} (decimal : isDecimalText s = true) : Bare s :=
  Bare.of_inert (List.all_eq_true.mpr fun c member =>
    (plain_of_numeral_ink (numeral_ink_of_is_decimal_text decimal c member)).1)

/-- A decimal text is neither a word nor a quoted text. -/
theorem read_plain_numeral {s : List Char} (decimal : isDecimalText s = true) :
    readPlain s = some (readNumeral s) := by
  have characters := numeral_ink_of_is_decimal_text decimal
  obtain ⟨c, rest, rfl⟩ := List.exists_cons_of_ne_nil (ne_nil_of_is_decimal_text decimal)
  have ink := characters c List.mem_cons_self
  have noWord := (plain_of_numeral_ink ink).2.1
  simp only [List.mem_cons, List.not_mem_nil, or_false, not_or] at noWord
  obtain ⟨noN, noT, noF⟩ := noWord
  have noText : unquoteText (c :: rest) = none := by
    have noQuote : c ≠ '\'' := by
      rintro rfl
      exact absurd ink (by decide)
    simp [unquoteText, Text.Quoted.disclose, Text.Quoted.inside?, noQuote]
  have noNull : Text.sameIgnoringAsciiCase (c :: rest) "null".toList = false :=
    same_ignoring_ascii_case_cons noN _ _
  have noTrue : Text.sameIgnoringAsciiCase (c :: rest) "true".toList = false :=
    same_ignoring_ascii_case_cons noT _ _
  have noFalse : Text.sameIgnoringAsciiCase (c :: rest) "false".toList = false :=
    same_ignoring_ascii_case_cons noF _ _
  simp only [readPlain, List.isEmpty_cons, noNull, noText, noTrue, noFalse, decimal,
    Bool.false_eq_true, if_false, if_true]
  unfold readNumeral
  split <;> simp_all

/-- A decimal text is a number, in every dialect. -/
theorem shows_numeral (dialect : Dialect) {t : String} (decimal : isDecimalText t.toList = true) :
    Shows dialect t (readNumeral t.toList) where
  bare := Bare.of_is_decimal_text decimal
  reads := by
    have characters := numeral_ink_of_is_decimal_text decimal
    have uncast : cutAtCast 0 false t.toList = none :=
      cut_at_cast_of_not_mem (fun colon => absurd (characters ':' colon) (by decide)) 0 false
    obtain ⟨c, rest, begins⟩ := List.exists_cons_of_ne_nil (ne_nil_of_is_decimal_text decimal)
    rw [begins] at characters uncast decimal ⊢
    obtain ⟨first, others⟩ := List.forall_mem_cons.mp characters
    rw [read_bare_eq_read_plain uncast (plain_of_numeral_ink first).2.2, read_plain_numeral decimal]
    intro _
    constructor
    · exact fun prefixed => absurd (others 'x' (List.mem_of_mem_head? prefixed)) (by decide)
    · exact fun prefixed => absurd (others 'X' (List.mem_of_mem_head? prefixed)) (by decide)

/-- What a dialect writes of a text is this text. -/
theorem shows_text_literal (dialect : Dialect) (s : String) :
    Shows dialect (dialect.textLiteral s) (.text s) := by
  cases dialect with
  | sqlite | postgres => exact shows_quote_text _ s
  | sqlServer =>
    have whole : (Dialect.sqlServer.textLiteral s).toList =
        ['N'] ++ Text.Quoted.enclose '\'' '\'' s.toList := by
      simp [Dialect.textLiteral, quoteText]
    constructor
    · rw [whole]
      exact (Bare.of_inert (by decide)).append (Bare.enclose s.toList)
    · rw [whole]
      simp [readBare, readSqlServer, unquote_text_enclose]

/-- The cast behind a quoted text is cut off. -/
theorem cut_at_cast_cast (s cast : List Char) :
    cutAtCast 0 false (Text.Quoted.enclose '\'' '\'' s ++ ':' :: ':' :: cast) =
      some (Text.Quoted.enclose '\'' '\'' s, cast) := by
  simp [cut_at_cast_enclose, cutAtCast]

/-- A quoted text with a cast is read as the text, unless the cast makes bytes of it. -/
theorem read_postgres_cast (s cast : List Char)
    (foreign : Text.lowerAscii (Text.trim cast) ≠ "bytea".toList) :
    readPostgres (Text.Quoted.enclose '\'' '\'' s ++ ':' :: ':' :: cast) =
      some (.text (String.ofList s)) := by
  simp only [readPostgres, cut_at_cast_cast, foreign, if_false, (Bare.enclose s).strip_parens_eq,
    read_plain_enclose]

/-- What a dialect writes of the text of an XML value is this text. -/
theorem shows_xml_literal (dialect : Dialect) (s : String) :
    Shows dialect (dialect.textLiteral s ++ dialect.xmlSuffix) (.text s) := by
  cases dialect with
  | sqlite | sqlServer =>
    rw [Dialect.xmlSuffix, String.append_empty]
    exact shows_text_literal _ s
  | postgres =>
    have whole : (Dialect.postgres.textLiteral s ++ Dialect.postgres.xmlSuffix).toList =
        Text.Quoted.enclose '\'' '\'' s.toList ++ "::xml".toList := by
      simp [Dialect.textLiteral, Dialect.xmlSuffix, quoteText]
    constructor
    · rw [whole]
      exact (Bare.enclose s.toList).append (Bare.of_inert (by decide))
    · have reads := read_postgres_cast s.toList "xml".toList (by decide)
      rw [String.ofList_toList] at reads
      rw [whole]
      exact reads

/-- What a dialect writes of bytes is these bytes. -/
theorem shows_bytes_literal (dialect : Dialect) (bytes : List UInt8) :
    Shows dialect (dialect.bytesLiteral bytes) (.bytes bytes) := by
  have digits : Bytes.ofHex? (Bytes.hexUpper bytes) = some bytes :=
    Bytes.of_hex?_hex_with Bytes.legible_upper bytes
  have inertDigits : (Bytes.hexUpper bytes).all inert = true := by
    refine List.all_eq_true.mpr fun c member => ?_
    obtain ⟨d, small, rfl⟩ := Bytes.mem_hex_with member
    exact (by decide : ∀ d < 16, inert (Bytes.digit 'A' d) = true) d small
  have unquoted : '\'' ∉ Bytes.hexUpper bytes := fun quote =>
    absurd (List.all_eq_true.mp inertDigits '\'' quote) (by decide)
  cases dialect with
  | sqlite =>
    have whole : (Dialect.sqlite.bytesLiteral bytes).toList =
        ['X'] ++ Text.Quoted.enclose '\'' '\'' (Bytes.hexUpper bytes) := by
      simp [Dialect.bytesLiteral, Text.Quoted.enclose, Text.Quoted.double_of_not_mem unquoted]
    constructor
    · rw [whole]
      exact (Bare.of_inert (by decide)).append (Bare.enclose _)
    · rw [whole]
      simp [readBare, readSqlite, readHexQuoted, unquote_text_enclose, digits]
  | postgres =>
    have whole : (Dialect.postgres.bytesLiteral bytes).toList =
        Text.Quoted.enclose '\'' '\'' ('\\' :: 'x' :: Bytes.hexUpper bytes) ++
          "::bytea".toList := by
      simp [Dialect.bytesLiteral, Text.Quoted.enclose, Text.Quoted.double,
        Text.Quoted.double_of_not_mem unquoted]
    constructor
    · rw [whole]
      exact (Bare.enclose _).append (Bare.of_inert (by decide))
    · have cast : Text.lowerAscii (Text.trim "bytea".toList) = "bytea".toList := by decide
      have cut := cut_at_cast_cast ('\\' :: 'x' :: Bytes.hexUpper bytes) "bytea".toList
      have escaped : readHexEscape
          (Text.Quoted.enclose '\'' '\'' ('\\' :: 'x' :: Bytes.hexUpper bytes)) = some bytes := by
        simp [readHexEscape, unquote_text_enclose, Text.dropStart?, digits]
      rw [whole]
      change readPostgres (_ ++ ':' :: ':' :: "bytea".toList) = _
      simp only [readPostgres, cut, cast, if_true, (Bare.enclose _).strip_parens_eq, escaped]
  | sqlServer =>
    have whole : (Dialect.sqlServer.bytesLiteral bytes).toList =
        ['0', 'x'] ++ Bytes.hexUpper bytes := by
      simp [Dialect.bytesLiteral]
    constructor
    · rw [whole]
      exact (Bare.of_inert (by decide)).append (Bare.of_inert inertDigits)
    · rw [whole]
      simp [readBare, readSqlServer, digits]

/-- What a dialect writes of a truth value is this value, as a word or as a number. -/
theorem shows_bool_literal (dialect : Dialect) (value : Bool) :
    Shows dialect (dialect.boolLiteral value) (.bool value) ∨
      Shows dialect (dialect.boolLiteral value) (.int (if value then 1 else 0)) := by
  cases dialect with
  | postgres =>
    refine Or.inl ?_
    cases value
    · exact ⟨Bare.of_inert (by decide), by decide⟩
    · exact ⟨Bare.of_inert (by decide), by decide⟩
  | sqlite | sqlServer =>
    refine Or.inr ?_
    cases value
    · exact shows_numeral _ (by decide)
    · exact shows_numeral _ (by decide)

/-- What every dialect writes of no value is no value. -/
theorem shows_null (dialect : Dialect) : Shows dialect "NULL" .null where
  bare := Bare.of_inert (by decide)
  reads := by cases dialect <;> decide

end Shapes

end SqlAccess.Literal
