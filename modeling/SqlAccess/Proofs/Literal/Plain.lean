import SqlAccess.Proofs.Literal.Grammar

/-!
# Literals that every dialect knows

A word, a number or a text in single quotes is read in every dialect, and as what it denotes. For a
cast behind it the scan has to stop at the double colon: it goes through a literal at any depth of
parentheses, so it goes through one in layers, too.
-/

namespace SqlAccess.Literal

open Text.Quoted (enclose)

section Casts

/-- The scan for a cast goes through a text and on behind it, at every depth. -/
def Passed (s : List Char) : Prop :=
  ∀ (depth : Int) (rest : List Char), cutAtCast depth false (s ++ rest) =
    (cutAtCast depth false rest).map fun sides => (s ++ sides.1, sides.2)

/-- The scan goes through one text after another. -/
theorem Passed.append {s rest : List Char} (first : Passed s) (second : Passed rest) :
    Passed (s ++ rest) := by
  intro depth behind
  rw [List.append_assoc, first depth, second depth, Option.map_map]
  simp only [Function.comp_def, List.append_assoc]

/-- The scan goes through a text without quotes, parentheses and colons. -/
theorem passed_of_forall {s : List Char} (plain : ∀ c ∈ s, c ∉ ['\'', '(', ')', ':']) :
    Passed s := by
  induction s with
  | nil => simp [Passed]
  | cons c rest inductionHypothesis =>
    obtain ⟨first, others⟩ := List.forall_mem_cons.mp plain
    simp only [List.mem_cons, List.not_mem_nil, or_false, not_or] at first
    intro depth behind
    simp [cutAtCast, first, inductionHypothesis others depth behind, Function.comp_def]

/-- The scan goes through a layer, one deeper. -/
theorem Passed.layer {s : List Char} (passed : Passed s) : Passed ('(' :: (s ++ [')'])) := by
  intro depth behind
  have deeper := passed (depth + 1) (')' :: behind)
  simp only [cutAtCast, List.cons_append, List.append_assoc, List.nil_append, deeper,
    Option.map_map]
  simp [Function.comp_def]

/-- The scan goes through a text in layers, if it goes through the text. -/
theorem Wraps.passed {t w : List Char} (wraps : Wraps t w) (passed : Passed t) : Passed w := by
  have blank {s : List Char} (all : s.all Text.isBlank = true) : Passed s := by
    refine passed_of_forall fun c member mark => ?_
    have holds := List.all_eq_true.mp all c member
    have none : ['\'', '(', ')', ':'].all (fun d => !Text.isBlank d) = true := by decide
    have inked := List.all_eq_true.mp none c mark
    simp [holds] at inked
  induction wraps with
  | itself => exact passed
  | spaced front back _ frontBlank backBlank inductionHypothesis =>
    exact ((blank frontBlank).append inductionHypothesis).append (blank backBlank)
  | layer _ inductionHypothesis => exact inductionHypothesis.layer

/-- A cut at a cast loses the double colon only. -/
theorem eq_of_cut_at_cast {depth : Int} {quoted : Bool} {s front cast : List Char}
    (cut : cutAtCast depth quoted s = some (front, cast)) : s = front ++ ':' :: ':' :: cast := by
  induction s generalizing depth quoted front cast with
  | nil => simp [cutAtCast] at cut
  | cons c rest inductionHypothesis =>
    -- past the colon the scan puts the character back in front of what it cuts
    have onward {depth : Int} {quoted : Bool}
        (later : ((cutAtCast depth quoted rest).map fun sides => (c :: sides.1, sides.2)) =
          some (front, cast)) : c :: rest = front ++ ':' :: ':' :: cast := by
      obtain ⟨⟨before, behind⟩, cutLater, same⟩ := Option.map_eq_some_iff.mp later
      cases same
      rw [inductionHypothesis cutLater, List.cons_append]
    unfold cutAtCast at cut
    split at cut
    · exact onward cut
    split at cut
    · exact onward cut
    split at cut
    · exact onward cut
    split at cut
    · exact onward cut
    split at cut
    · rename_i colon
      split at cut
      · cases cut
        rw [colon.1, List.nil_append]
      · exact onward cut
    · exact onward cut

end Casts

section Plain

/-- What is in quotes comes out exactly when it was put into them. -/
theorem unquote_text_eq_some_iff {s : List Char} {t : String} :
    unquoteText s = some t ↔ s = enclose '\'' '\'' t.toList := by
  rw [unquoteText, Option.map_eq_some_iff]
  constructor
  · rintro ⟨content, discloses, rfl⟩
    rw [String.toList_ofList]
    exact Text.Quoted.disclose_eq_some_iff.mp discloses
  · intro whole
    exact ⟨t.toList, Text.Quoted.disclose_eq_some_iff.mpr whole, String.ofList_toList⟩

/-- A text that begins with a letter in lower case is not in quotes. -/
theorem unquote_text_of_lower {s rest : List Char} {c : Char}
    (lower : Text.lowerAscii s = c :: rest) (letter : c ≠ '\'') : unquoteText s = none := by
  rw [Option.eq_none_iff_forall_ne_some]
  intro t quoted
  rw [unquote_text_eq_some_iff.mp quoted] at lower
  exact letter (List.cons.inj lower).1.symm

/-- The letters of the words that are literals. -/
def wordInk : List Char := "nultresfa".toList

/-- The letters of a word that is a literal are neither blanks nor marks. -/
theorem inert_of_word_ink {c : Char} (letter : c.toLower ∈ wordInk) :
    inert c = true ∧ c ≠ ':' := by
  have small : wordInk.all (fun d => inert d && d != ':') = true := by decide
  have capital : (wordInk.map fun d => Char.ofNat (d.toNat - 32)).all
      (fun d => inert d && d != ':') = true := by decide
  have either : (inert c && c != ':') = true := by
    cases upper : c.isUpper with
    | false =>
      rw [Text.to_lower_of_is_upper_eq_false upper] at letter
      exact List.all_eq_true.mp small c letter
    | true =>
      have moved : Char.ofNat (c.toLower.toNat - 32) = c := by
        rw [Text.to_nat_to_lower upper, Nat.add_sub_cancel, c.ofNat_toNat]
      exact List.all_eq_true.mp capital c (List.mem_map.mpr ⟨c.toLower, letter, moved⟩)
  simpa using either

/-- A literal that every dialect knows is a text in quotes, or no blank, quote, parenthesis or
colon is in it. -/
theorem Plain.inert_or_enclose {s : List Char} {value : Literal} (literal : Plain s value) :
    (∀ c ∈ s, inert c = true ∧ c ≠ ':') ∨ ∃ content, s = enclose '\'' '\'' content := by
  have word {w : List Char} (lower : Text.lowerAscii s = w)
      (letters : w.all (fun c => c ∈ wordInk) = true) :
      ∀ c ∈ s, inert c = true ∧ c ≠ ':' := by
    intro c member
    have lowered : c.toLower ∈ w := by
      rw [← lower]
      exact List.mem_map_of_mem member
    exact inert_of_word_ink (of_decide_eq_true (List.all_eq_true.mp letters _ lowered))
  have numeral (figures : Figures (unsigned s)) : ∀ c ∈ s, inert c = true ∧ c ≠ ':' := by
    intro c member
    have ink := numeral_ink_of_is_decimal_text ((is_decimal_text_iff s).mpr figures) c member
    refine ⟨(plain_of_numeral_ink ink).1, ?_⟩
    rintro rfl
    exact absurd ink (by decide)
  cases literal with
  | null lower => exact Or.inl (word lower (by decide))
  | bool value lower => cases value <;> exact Or.inl (word lower (by decide))
  | integer i figures => exact Or.inl (numeral figures)
  | decimal figures => exact Or.inl (numeral figures)
  | text content => exact Or.inr ⟨content, rfl⟩

/-- Layers around a literal that every dialect knows come off, down to it. -/
theorem Plain.bare {s : List Char} {value : Literal} (literal : Plain s value) : Bare s := by
  rcases literal.inert_or_enclose with ink | ⟨content, rfl⟩
  · exact Bare.of_inert (List.all_eq_true.mpr fun c member => (ink c member).1)
  · exact Bare.enclose content

/-- The scan for a cast goes through a literal that every dialect knows. -/
theorem Plain.passed {s : List Char} {value : Literal} (literal : Plain s value) : Passed s := by
  rcases literal.inert_or_enclose with ink | ⟨content, rfl⟩
  · refine passed_of_forall fun c member mark => ?_
    obtain ⟨inertInk, noColon⟩ := ink c member
    simp only [inert, Bool.and_eq_true, bne_iff_ne] at inertInk
    simp [inertInk, noColon] at mark
  · exact fun depth rest => cut_at_cast_enclose depth content rest

/-- There is no cast in a literal that every dialect knows. -/
theorem Plain.uncast {s : List Char} {value : Literal} (literal : Plain s value) :
    cutAtCast 0 false s = none := by
  have scanned := literal.passed 0 []
  rwa [List.append_nil] at scanned

/-- Figures that are no integer of 64 signed bits stay a decimal. -/
theorem int64_value?_eq_none {s : List Char}
    (noInteger : ∀ i : Int64, '.' ∉ s → numberIn? s ≠ some (i.toInt : ℚ)) :
    Decimal.int64Value? s = none := by
  rw [Option.eq_none_iff_forall_ne_some]
  intro i reads
  have same := Decimal.to_int_of_int_of_fits (Decimal.fits_of_int64_value? reads).2
  rw [← same] at reads
  obtain ⟨_, whole, number⟩ := int64_value?_eq_some_iff.mp reads
  exact noInteger (Int64.ofInt i) whole number

/-- A text with a letter in lower case is not empty. -/
theorem is_empty_of_lower {s rest : List Char} {c : Char}
    (lower : Text.lowerAscii s = c :: rest) : s.isEmpty = false := by
  cases s with
  | nil => simp [Text.lowerAscii] at lower
  | cons d others => rfl

/-- The words for the truth values are read as these. -/
theorem read_plain_bool {s : List Char} {value : Bool}
    (word : Text.lowerAscii s = (if value then "true" else "false").toList) :
    readPlain s = some (.bool value) := by
  have same (t : List Char) : Text.sameIgnoringAsciiCase s t =
      ((if value then "true" else "false").toList == Text.lowerAscii t) := by
    rw [Text.sameIgnoringAsciiCase, word]
  cases value with
  | false =>
    have spelled : Text.lowerAscii s = 'f' :: "alse".toList := word
    simp [readPlain, is_empty_of_lower spelled, unquote_text_of_lower spelled, same,
      Text.lowerAscii]
  | true =>
    have spelled : Text.lowerAscii s = 't' :: "rue".toList := word
    simp [readPlain, is_empty_of_lower spelled, unquote_text_of_lower spelled, same,
      Text.lowerAscii]

/-- A literal that every dialect knows is read as what it denotes. -/
theorem Plain.read_plain_eq {s : List Char} {value : Literal} (literal : Plain s value) :
    readPlain s = some value := by
  cases literal with
  | null word =>
    have spelled : Text.lowerAscii s = 'n' :: "ull".toList := word
    have same : Text.sameIgnoringAsciiCase s "null".toList = true := by
      rw [Text.sameIgnoringAsciiCase, word]
      decide
    simp only [readPlain, is_empty_of_lower spelled, same, Bool.false_eq_true, if_false, if_true]
  | bool value word => exact read_plain_bool word
  | integer i figures whole number =>
    have reads := int64_value?_eq_some_iff.mpr ⟨figures, whole, number⟩
    rw [read_plain_numeral ((is_decimal_text_iff s).mpr figures), readNumeral, reads]
    exact congrArg (some ∘ Literal.int) (Int64.ofInt_toInt i)
  | decimal figures noInteger =>
    rw [read_plain_numeral ((is_decimal_text_iff s).mpr figures), readNumeral,
      int64_value?_eq_none noInteger]
  | text content => exact read_plain_enclose content

/-- What is read of a text is a literal that every dialect knows, or all of the text. -/
theorem plain_of_read_plain {s : List Char} {value : Literal} (reads : readPlain s = some value) :
    Plain s value ∨ value = .expression (String.ofList s) := by
  unfold readPlain at reads
  split at reads
  · simp at reads
  split at reads
  · rename_i word
    cases reads
    exact Or.inl (.null (beq_iff_eq.mp word))
  split at reads
  · rename_i content quoted
    cases reads
    have text := Plain.text content.toList
    rw [String.ofList_toList, ← unquote_text_eq_some_iff.mp quoted] at text
    exact Or.inl text
  split at reads
  · rename_i word
    cases reads
    exact Or.inl (.bool true (beq_iff_eq.mp word))
  split at reads
  · rename_i word
    cases reads
    exact Or.inl (.bool false (beq_iff_eq.mp word))
  split at reads
  · rename_i i integer
    cases reads
    have same := Decimal.to_int_of_int_of_fits (Decimal.fits_of_int64_value? integer).2
    rw [← same] at integer
    obtain ⟨figures, whole, number⟩ := int64_value?_eq_some_iff.mp integer
    exact Or.inl (.integer _ figures whole number)
  split at reads
  · rename_i noInteger decimal
    cases reads
    refine Or.inl (.decimal ((is_decimal_text_iff s).mp decimal) fun i whole number => ?_)
    have integer := int64_value?_eq_some_iff.mpr
      ⟨(is_decimal_text_iff s).mp decimal, whole, number⟩
    rw [noInteger] at integer
    simp at integer
  · cases reads
    exact Or.inr rfl

/-- Nothing is read of no text only. -/
theorem read_plain_eq_none_iff {s : List Char} : readPlain s = none ↔ s = [] := by
  constructor
  · intro nothing
    unfold readPlain at nothing
    repeat' split at nothing
    all_goals simp_all
  · rintro rfl
    rfl

end Plain

section Dialects

/-- The first letter of a text in lower case. -/
theorem exists_cons_of_lower {s rest : List Char} {c : Char}
    (lower : Text.lowerAscii s = c :: rest) :
    ∃ d others, s = d :: others ∧ d.toLower = c ∧ Text.lowerAscii others = rest := by
  obtain ⟨d, others, rfl, first, behind⟩ := List.map_eq_cons_iff.mp lower
  exact ⟨d, others, rfl, first, behind⟩

/-- The word for no value is the same in every dialect. -/
theorem read_bare_null {s : List Char} (word : Text.lowerAscii s = "null".toList)
    (dialect : Dialect) : readBare dialect s = some .null := by
  have uncast := (Plain.null word).uncast
  have reads := (Plain.null word).read_plain_eq
  have spelled : Text.lowerAscii s = 'n' :: ['u', 'l', 'l'] := word
  obtain ⟨c, rest, rfl, first, others⟩ := exists_cons_of_lower spelled
  have noLetter : ['X', 'x', '"', '0'].all (fun d => d.toLower != 'n') = true := by decide
  have noMark : ∀ d ∈ ['X', 'x', '"', '0'], c ≠ d := by
    rintro d mark rfl
    exact bne_iff_ne.mp (List.all_eq_true.mp noLetter c mark) first
  simp only [List.forall_mem_cons] at noMark
  cases dialect with
  | sqlite => simp [readBare, readSqlite, readHexQuoted, Text.Quoted.inside?, noMark, reads]
  | postgres => simp only [readBare, readPostgres, uncast, reads]
  | sqlServer =>
    have unquoted : unquoteText rest = none := unquote_text_of_lower others (by decide)
    simp [readBare, readSqlServer, unquoted, reads, noMark]

/-- The words for the truth values are the same in every dialect. -/
theorem read_bare_bool {s : List Char} {value : Bool}
    (word : Text.lowerAscii s = (if value then "true" else "false").toList)
    (dialect : Dialect) : readBare dialect s = some (.bool value) := by
  have begins : ∃ d ∈ ['t', 'f'], ∃ rest, Text.lowerAscii s = d :: rest := by
    cases value with
    | false => exact ⟨'f', by decide, "alse".toList, word⟩
    | true => exact ⟨'t', by decide, "rue".toList, word⟩
  obtain ⟨d, letter, _, spelled⟩ := begins
  have uncast := (Plain.bool value word).uncast
  have reads := read_plain_bool word
  obtain ⟨c, rest, rfl, rfl, _⟩ := exists_cons_of_lower spelled
  have noLetter : ['X', 'x', '"', 'N', 'n'].all (fun d => d.toLower ∉ ['t', 'f']) = true := by
    decide
  rw [read_bare_eq_read_plain uncast, reads]
  · intro mark
    exact of_decide_eq_true (List.all_eq_true.mp noLetter c mark) letter
  · rintro rfl
    exact absurd letter (by decide)

/-- Figures are read in every dialect as in all. -/
theorem read_bare_figures {s : List Char} (figures : Figures (unsigned s)) (dialect : Dialect) :
    readBare dialect s = readPlain s := by
  have decimal := (is_decimal_text_iff s).mpr figures
  have shown := (shows_numeral dialect (t := String.ofList s) (by
    rwa [String.toList_ofList])).reads
  rw [String.toList_ofList] at shown
  rw [shown, read_plain_numeral decimal]

/-- A literal that every dialect knows is read in every dialect as what it denotes. -/
theorem Plain.read_bare_eq {s : List Char} {value : Literal} (literal : Plain s value)
    (dialect : Dialect) : readBare dialect s = some value := by
  have reads := literal.read_plain_eq
  cases literal with
  | null word => exact read_bare_null word dialect
  | bool value word => exact read_bare_bool word dialect
  | integer i figures => rw [read_bare_figures figures, reads]
  | decimal figures => rw [read_bare_figures figures, reads]
  | text content =>
    have shown := (shows_quote_text dialect (String.ofList content)).reads
    rwa [quoteText, String.toList_ofList, String.toList_ofList] at shown

end Dialects

end SqlAccess.Literal
