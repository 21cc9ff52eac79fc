import SqlAccess.Proofs.Literal.Plain

/-!
# What a catalog's default is taken for

Main statement: the literals of a dialect and the texts that only look like them are exactly what is
taken for a value, with the value that they denote; everything else is an expression with all of the
text, its layers taken off.
-/

namespace SqlAccess.Literal

open Text.Quoted (enclose double collapse)

section Dialects

/-- What a dialect takes for a value: a literal, or what looks like one. -/
def Recognized (dialect : Dialect) (s : List Char) (value : Literal) : Prop :=
  IsLiteral dialect s value ∨ LooksLiteral dialect s value

/-- What is read is recognized, or all of the text. -/
def Sound (dialect : Dialect) : Prop :=
  ∀ {s : List Char} {value : Literal}, readBare dialect s = some value →
    Recognized dialect s value ∨ value = .expression (String.ofList s)

/-- What is recognized is read. -/
def Complete (dialect : Dialect) : Prop :=
  ∀ {s : List Char} {value : Literal}, Recognized dialect s value →
    readBare dialect s = some value

/-- Where a dialect asks for no shape of its own, what is read is recognized. -/
theorem recognized_of_read_plain {s : List Char} {value : Literal} (dialect : Dialect)
    (reads : readPlain s = some value) :
    Recognized dialect s value ∨ value = .expression (String.ofList s) :=
  (plain_of_read_plain reads).imp_left fun literal => Or.inl (.plain literal)

/-- Bytes are read of digits in quotes behind an X. -/
theorem read_hex_quoted_eq_some_iff {s : List Char} {content : List UInt8} :
    readHexQuoted s = some content ↔ ∃ mark digits, (mark = 'X' ∨ mark = 'x') ∧
      s = mark :: enclose '\'' '\'' digits ∧ Bytes.Spells digits content := by
  constructor
  · intro reads
    unfold readHexQuoted at reads
    split at reads
    · simp at reads
    · rename_i c rest
      split at reads
      · rename_i marked
        obtain ⟨digits, quoted, spelled⟩ := Option.bind_eq_some_iff.mp reads
        exact ⟨c, digits.toList, marked, by rw [unquote_text_eq_some_iff.mp quoted],
          of_hex?_eq_some_iff.mp spelled⟩
      · simp at reads
  · rintro ⟨mark, digits, marked, rfl, spells⟩
    simp [readHexQuoted, marked, unquote_text_enclose, of_hex?_eq_some_iff.mpr spells]

/-- What SQLite reads is recognized, or all of the text. -/
theorem sqlite_sound : Sound .sqlite := by
  intro s value reads
  simp only [readBare, readSqlite] at reads
  split at reads
  · rename_i content hexadecimal
    cases reads
    obtain ⟨mark, digits, marked, rfl, spells⟩ := read_hex_quoted_eq_some_iff.mp hexadecimal
    exact Or.inl (Or.inl (.hexQuoted marked spells))
  split at reads
  · rename_i inner ends
    cases reads
    rw [Text.Quoted.inside?_eq_some_iff.mp ends]
    by_cases paired : ∃ content, inner = double '"' content
    · obtain ⟨content, rfl⟩ := paired
      rw [Text.Quoted.collapse_double]
      exact Or.inl (Or.inl (.doubleQuoted content))
    · exact Or.inl (Or.inr (.loneQuote fun content same => paired ⟨content, same⟩))
  · exact recognized_of_read_plain .sqlite reads

/-- Between double quotes SQLite reads a text. -/
theorem read_sqlite_quoted (inner : List Char) :
    readSqlite ('"' :: (inner ++ ['"'])) = some (.text (String.ofList (collapse '"' inner))) := by
  have noMark : readHexQuoted ('"' :: (inner ++ ['"'])) = none := by simp [readHexQuoted]
  simp [readSqlite, noMark, Text.Quoted.inside?]

/-- What is recognized of SQLite is read. -/
theorem sqlite_complete : Complete .sqlite := by
  rintro s value (literal | looks)
  · cases literal with
    | plain literal => exact literal.read_bare_eq .sqlite
    | hexQuoted marked spells =>
      have reads := read_hex_quoted_eq_some_iff.mpr ⟨_, _, marked, rfl, spells⟩
      simp only [readBare, readSqlite, reads]
    | doubleQuoted content =>
      have reads := read_sqlite_quoted (double '"' content)
      rwa [Text.Quoted.collapse_double] at reads
  · cases looks with
    | loneQuote => exact read_sqlite_quoted _

/-- What SQL Server reads is recognized, or all of the text. -/
theorem sql_server_sound : Sound .sqlServer := by
  intro s value reads
  simp only [readBare, readSqlServer] at reads
  split at reads
  · rename_i content hexadecimal
    cases reads
    split at hexadecimal
    · rename_i mark digits
      split at hexadecimal
      · rename_i marked
        exact Or.inl (Or.inl (.hexDigits marked (of_hex?_eq_some_iff.mp hexadecimal)))
      · simp at hexadecimal
    · simp at hexadecimal
  split at reads
  · rename_i content national
    cases reads
    split at national
    · rename_i mark rest
      split at national
      · rename_i marked
        rw [unquote_text_eq_some_iff.mp national]
        have literal := IsLiteral.national marked content.toList
        rw [String.ofList_toList] at literal
        exact Or.inl (Or.inl literal)
      · simp at national
    · simp at national
  · exact recognized_of_read_plain .sqlServer reads

/-- What is recognized of SQL Server is read. -/
theorem sql_server_complete : Complete .sqlServer := by
  rintro s value (literal | looks)
  · cases literal with
    | plain literal => exact literal.read_bare_eq .sqlServer
    | hexDigits marked spells =>
      simp only [readBare, readSqlServer, marked, if_true, of_hex?_eq_some_iff.mpr spells]
    | national marked content =>
      rcases marked with rfl | rfl <;> simp [readBare, readSqlServer, unquote_text_enclose]
  · cases looks

/-- Bytes are read of a quoted text of digits behind a backslash and an x. -/
theorem read_hex_escape_eq_some_iff {head : List Char} {content : List UInt8} :
    readHexEscape head = some content ↔
      ∃ digits, head = enclose '\'' '\'' ('\\' :: 'x' :: digits) ∧
        Bytes.Spells digits content := by
  constructor
  · intro reads
    simp only [readHexEscape, Option.bind_eq_bind, Option.bind_eq_some_iff] at reads
    obtain ⟨t, quoted, digits, escaped, spelled⟩ := reads
    have whole := Text.drop_start?_eq_some_iff.mp escaped
    refine ⟨digits, ?_, of_hex?_eq_some_iff.mp spelled⟩
    rw [unquote_text_eq_some_iff.mp quoted, whole]
    rfl
  · rintro ⟨digits, rfl, spells⟩
    simp [readHexEscape, unquote_text_enclose, Text.dropStart?, of_hex?_eq_some_iff.mpr spells]

/-- A cast makes bytes of the texts that stand for them. -/
theorem escapes_iff {head cast : List Char} {content : List UInt8} :
    (if Text.lowerAscii (Text.trim cast) = "bytea".toList then readHexEscape head else none) =
      some content ↔ Escapes head cast content := by
  split
  · rename_i isBytea
    rw [read_hex_escape_eq_some_iff]
    exact ⟨fun escaped => ⟨isBytea, escaped⟩, fun escapes => escapes.2⟩
  · rename_i noBytea
    simp only [Escapes, noBytea, false_and, reduceCtorEq]

/-- What is cast is a literal that every dialect knows. -/
theorem Under.exists_plain {head cast : List Char} {value : Literal}
    (under : Under head cast value) : ∃ known, Plain head known := by
  cases under with
  | bytes content escapes =>
    obtain ⟨_, digits, rfl, _⟩ := escapes
    exact ⟨_, .text _⟩
  | plain literal => exact ⟨_, literal⟩

/-- A literal with a cast is cut behind the literal, and its layers come off down to it. -/
theorem cut_at_cast_of_wraps {front head cast : List Char} {value : Literal}
    (wraps : Wraps head front) (under : Under head cast value) :
    cutAtCast 0 false (front ++ ':' :: ':' :: cast) = some (front, cast) ∧
      stripParens front = head := by
  obtain ⟨known, plain⟩ := under.exists_plain
  constructor
  · rw [wraps.passed plain.passed]
    simp [cutAtCast]
  · rw [wraps.strip_parens_eq plain.bare.balanced, plain.bare.strip_parens_eq]

/-- What follows a literal with a cast is what the scan for a cast leaves. -/
theorem Casts.exists_cut {s cast : List Char} {value : Literal} (casts : Casts s cast value) :
    ∃ front, cutAtCast 0 false s = some (front, cast) := by
  obtain ⟨wraps, under⟩ := casts
  exact ⟨_, (cut_at_cast_of_wraps wraps under).1⟩

/-- A literal of PostgreSQL is read without its cast. -/
theorem read_postgres_casts {s cast : List Char} {value : Literal} (casts : Casts s cast value) :
    readPostgres s = some value := by
  obtain ⟨wraps, under⟩ := casts
  obtain ⟨cut, stripped⟩ := cut_at_cast_of_wraps wraps under
  cases under with
  | bytes content escapes => simp only [readPostgres, cut, stripped, escapes_iff.mpr escapes]
  | plain literal unescaped =>
    have noBytes := Option.eq_none_iff_forall_ne_some.mpr fun content makes =>
      unescaped content (escapes_iff.mp makes)
    simp only [readPostgres, cut, stripped, noBytes, literal.read_plain_eq]
    cases literal <;> rfl

/-- What PostgreSQL reads of a text with a cast is the value of a literal in front of it, or all of
the text. -/
theorem casts_of_read_postgres {s front cast : List Char} {value : Literal}
    (cut : cutAtCast 0 false s = some (front, cast)) (reads : readPostgres s = some value) :
    Casts s cast value ∨ value = .expression (String.ofList s) := by
  have wraps := wraps_strip_parens front
  have whole := eq_of_cut_at_cast cut
  simp only [readPostgres, cut] at reads
  split at reads
  · rename_i content makes
    cases reads
    have under := Under.bytes content (escapes_iff.mp makes)
    exact Or.inl (whole ▸ .intro wraps under)
  rename_i noBytes
  split at reads
  · cases reads
    exact Or.inr rfl
  · cases reads
    exact Or.inr rfl
  · rename_i noExpression
    rcases plain_of_read_plain reads with literal | isExpression
    · have under : Under (stripParens front) cast value :=
        .plain literal fun content escapes => by
          rw [escapes_iff.mpr escapes] at noBytes
          simp at noBytes
      exact Or.inl (whole ▸ .intro wraps under)
    · rw [isExpression] at reads
      exact absurd reads (noExpression _)

/-- What PostgreSQL reads is recognized, or all of the text. -/
theorem postgres_sound : Sound .postgres := by
  intro s value reads
  cases cut : cutAtCast 0 false s with
  | none =>
    simp only [readBare, readPostgres, cut] at reads
    exact recognized_of_read_plain .postgres reads
  | some sides =>
    obtain ⟨front, cast⟩ := sides
    refine (casts_of_read_postgres cut reads).imp_left fun casts => ?_
    by_cases type : TypeName cast
    · exact Or.inl (.cast casts type)
    · exact Or.inr (.castFurther casts type)

/-- What is recognized of PostgreSQL is read. -/
theorem postgres_complete : Complete .postgres := by
  rintro s value (literal | looks)
  · cases literal with
    | plain literal => exact literal.read_bare_eq .postgres
    | cast casts => exact read_postgres_casts casts
  · cases looks with
    | castFurther casts => exact read_postgres_casts casts

end Dialects

section Recognition

/-- What a dialect reads is recognized, or all of the text. -/
theorem sound (dialect : Dialect) : Sound dialect := by
  cases dialect with
  | sqlite => exact sqlite_sound
  | postgres => exact postgres_sound
  | sqlServer => exact sql_server_sound

/-- What is recognized of a dialect is read. -/
theorem complete (dialect : Dialect) : Complete dialect := by
  cases dialect with
  | sqlite => exact sqlite_complete
  | postgres => exact postgres_complete
  | sqlServer => exact sql_server_complete

/-- No literal that every dialect knows is an expression. -/
theorem Plain.ne_expression {s : List Char} {value : Literal} (literal : Plain s value)
    (sql : String) : value ≠ .expression sql := by
  cases literal <;> simp

/-- No literal is an expression, nor is what looks like one taken for any. -/
theorem Recognized.ne_expression {dialect : Dialect} {s : List Char} {value : Literal}
    (recognized : Recognized dialect s value) (sql : String) : value ≠ .expression sql := by
  have cast {s cast : List Char} (casts : Casts s cast value) : value ≠ .expression sql := by
    obtain ⟨_, under⟩ := casts
    cases under with
    | bytes => simp
    | plain literal => exact literal.ne_expression sql
  rcases recognized with literal | looks
  · cases literal with
    | plain literal => exact literal.ne_expression sql
    | cast casts => exact cast casts
    | hexQuoted | doubleQuoted | hexDigits | national => simp
  · cases looks with
    | loneQuote => simp
    | castFurther casts => exact cast casts

/-- Nothing is read of no text only. -/
theorem read_bare_eq_none_iff {dialect : Dialect} {s : List Char} :
    readBare dialect s = none ↔ s = [] := by
  constructor
  · intro nothing
    refine read_plain_eq_none_iff.mp ?_
    cases dialect with
    | sqlite =>
      simp only [readBare, readSqlite] at nothing
      split at nothing
      · simp at nothing
      · split at nothing <;> simp_all
    | postgres =>
      simp only [readBare] at nothing
      cases cut : cutAtCast 0 false s with
      | none => simpa only [readPostgres, cut] using nothing
      | some sides =>
        simp only [readPostgres, cut] at nothing
        split at nothing
        · simp at nothing
        · split at nothing <;> simp_all
    | sqlServer =>
      simp only [readBare, readSqlServer] at nothing
      split at nothing
      · simp at nothing
      · split at nothing <;> simp_all
  · rintro rfl
    cases dialect <;> rfl

/-- Only layers and blanks are taken off a default. What is left is taken for a value exactly when
it is one literal of the dialect that denotes the value, or only looks like one; and where it is
neither, all of it is an expression.

Proof: the reader is sound and complete for what it recognizes, dialect by dialect. It gives nothing
only for nothing; so where nothing is recognized it gives the expression. -/
theorem of_catalog_eq_some_iff (dialect : Dialect) (raw : String) (value : Literal) :
    Wraps (stripParens raw.toList) raw.toList ∧
      (ofCatalog dialect raw = some value ↔
        IsLiteral dialect (stripParens raw.toList) value ∨
          LooksLiteral dialect (stripParens raw.toList) value ∨
            (stripParens raw.toList ≠ [] ∧
              (∀ other, ¬ Recognized dialect (stripParens raw.toList) other) ∧
                value = .expression (String.ofList (stripParens raw.toList)))) := by
  refine ⟨wraps_strip_parens _, ?_⟩
  rw [of_catalog_eq, ← or_assoc]
  generalize stripParens raw.toList = s
  constructor
  · intro reads
    by_cases recognized : ∃ other, Recognized dialect s other
    · obtain ⟨other, recognized⟩ := recognized
      rw [complete dialect recognized] at reads
      cases reads
      exact Or.inl recognized
    · have visible : s ≠ [] := by
        intro empty
        rw [read_bare_eq_none_iff.mpr empty] at reads
        simp at reads
      rcases sound dialect reads with taken | isExpression
      · exact absurd ⟨value, taken⟩ recognized
      · exact Or.inr ⟨visible, not_exists.mp recognized, isExpression⟩
  · rintro (recognized | ⟨visible, unrecognized, rfl⟩)
    · exact complete dialect recognized
    · obtain ⟨read, reads⟩ :=
        Option.ne_none_iff_exists'.mp (mt read_bare_eq_none_iff.mp visible)
      rw [reads]
      exact congrArg some ((sound dialect reads).resolve_left (unrecognized read))

/-- A concatenation is taken for its first text, by the cast behind that. -/
theorem of_catalog_joined_casts :
    ofCatalog .postgres "'a'::text || 'b'::text" = some (.text "a") ∧
      ∀ value, ¬ IsLiteral .postgres (stripParens "'a'::text || 'b'::text".toList) value := by
  have trimmed : Text.trim "'a'::text || 'b'::text".toList = "'a'::text || 'b'::text".toList := by
    decide
  have stripped : stripParens "'a'::text || 'b'::text".toList =
      "'a'::text || 'b'::text".toList := by
    rw [stripParens, trimmed, strip_layers_of_bare (by decide)]
  have casts : Casts "'a'::text || 'b'::text".toList "text || 'b'::text".toList (.text "a") :=
    .intro .itself (.plain (.text ['a']) fun _ escapes => absurd escapes.1 (by decide))
  have further : ¬ TypeName "text || 'b'::text".toList := fun type =>
    absurd (type.ink '|' (by decide)) (by decide)
  rw [of_catalog_eq, stripped]
  refine ⟨complete .postgres (Or.inr (.castFurther casts further)), fun value literal => ?_⟩
  obtain ⟨_, cut⟩ := casts.exists_cut
  cases literal with
  | plain literal =>
    rw [literal.uncast] at cut
    cases cut
  | cast others type =>
    obtain ⟨_, cutOthers⟩ := others.exists_cut
    rw [cutOthers, Option.some.injEq, Prod.mk.injEq] at cut
    exact further (cut.2 ▸ type)

/-- A concatenation of names in double quotes is taken for one text. -/
theorem of_catalog_joined_names :
    ofCatalog .sqlite "\"a\" || \"b\"" = some (.text "a\" || \"b") ∧
      ∀ value, ¬ IsLiteral .sqlite (stripParens "\"a\" || \"b\"".toList) value := by
  have trimmed : Text.trim "\"a\" || \"b\"".toList = "\"a\" || \"b\"".toList := by decide
  have stripped : stripParens "\"a\" || \"b\"".toList = "\"a\" || \"b\"".toList := by
    rw [stripParens, trimmed, strip_layers_of_bare (by decide)]
  have isExpression : readPlain "\"a\" || \"b\"".toList =
      some (.expression "\"a\" || \"b\"") := by decide
  have undisclosed : Text.Quoted.disclose '"' "\"a\" || \"b\"".toList = none := by decide
  have begins : "\"a\" || \"b\"".toList.head? = some '"' := by decide
  rw [of_catalog_eq, stripped]
  refine ⟨by decide, fun value literal => ?_⟩
  generalize "\"a\" || \"b\"".toList = s at literal isExpression undisclosed begins
  cases literal with
  | plain literal =>
    rw [literal.read_plain_eq] at isExpression
    exact literal.ne_expression _ (Option.some.inj isExpression)
  | hexQuoted marked =>
    rw [List.head?_cons, Option.some.injEq] at begins
    subst begins
    exact absurd marked (by decide)
  | doubleQuoted content => simp [Text.Quoted.disclose_enclose] at undisclosed

end Recognition

end SqlAccess.Literal
