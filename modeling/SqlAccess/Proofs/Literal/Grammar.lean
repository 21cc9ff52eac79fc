import SqlAccess.Proofs.Literal.Reading
import SqlAccess.Proofs.Text.AsciiCase
import SqlAccess.Proofs.Text.Quoted
import SqlAccess.Text.Alphabetic

/-!
# The literals of the dialects

Which texts are one literal, and what each of them denotes, said without a reader. A literal that
every dialect knows is a word, a number or a text in single quotes; the dialects add shapes of their
own. PostgreSQL allows a cast behind a literal, and what is cast to must look like the name of a
type.

Two shapes only look like literals at their ends. A text between double quotes with a lone double
quote in it is no text of SQLite, and a literal of PostgreSQL in front of a double colon is only the
beginning of an expression when no name of a type follows. Both are kept apart here from the
literals.
-/

namespace SqlAccess

/-- Digits of either case that spell bytes, two for each of them. -/
def Bytes.Spells (digits : List Char) (bytes : List UInt8) : Prop :=
  Text.lowerAscii digits = Bytes.hexLower bytes

namespace Literal

open Text.Quoted (enclose double collapse)

section Grammar

/-- A literal that every dialect knows, and what it denotes. -/
inductive Plain : List Char → Literal → Prop
  | null {s : List Char} (word : Text.lowerAscii s = "null".toList) : Plain s .null
  | bool {s : List Char} (value : Bool)
      (word : Text.lowerAscii s = (if value then "true" else "false").toList) :
      Plain s (.bool value)
  /-- Digits behind an optional sign whose number is one of 64 signed bits. -/
  | integer {s : List Char} (i : Int64) (figures : Figures (unsigned s)) (whole : '.' ∉ s)
      (number : numberIn? s = some (i.toInt : ℚ)) : Plain s (.int i)
  /-- Any other digits behind an optional sign, with at most one point among them. -/
  | decimal {s : List Char} (figures : Figures (unsigned s))
      (noInteger : ∀ i : Int64, '.' ∉ s → numberIn? s ≠ some (i.toInt : ℚ)) :
      Plain s (.decimal (String.ofList s))
  | text (content : List Char) :
      Plain (enclose '\'' '\'' content) (.text (String.ofList content))

/-- The characters that names of types are written with. -/
def typeInk (c : Char) : Bool :=
  Text.isAlphabetic c || Decimal.isDigit c || Text.isBlank c ||
    c ∈ ['_', '.', '"', ',', '(', ')', '[', ']']

/-- What looks like the name of a type. -/
structure TypeName (cast : List Char) : Prop where
  ink : ∀ c ∈ cast, typeInk c = true
  visible : ∃ c ∈ cast, Text.isBlank c = false

/-- A quoted text that stands for bytes when it is cast to them. -/
def Escapes (head cast : List Char) (bytes : List UInt8) : Prop :=
  Text.lowerAscii (Text.trim cast) = "bytea".toList ∧
    ∃ digits, head = enclose '\'' '\'' ('\\' :: 'x' :: digits) ∧ Bytes.Spells digits bytes

/-- What a literal denotes that is cast: bytes where it is a text that stands for them, and else
what it denotes without the cast. -/
inductive Under (head cast : List Char) : Literal → Prop
  | bytes (content : List UInt8) (escapes : Escapes head cast content) :
      Under head cast (.bytes content)
  | plain {value : Literal} (literal : Plain head value)
      (unescaped : ∀ content, ¬ Escapes head cast content) : Under head cast value

/-- A literal, perhaps in layers, with a double colon behind it, and what follows that. -/
inductive Casts : List Char → List Char → Literal → Prop
  | intro {front head cast : List Char} {value : Literal} (wraps : Wraps head front)
      (literal : Under head cast value) : Casts (front ++ ':' :: ':' :: cast) cast value

/-- A text that is as a whole one literal of the dialect, and what it denotes. -/
inductive IsLiteral : Dialect → List Char → Literal → Prop
  | plain {dialect : Dialect} {s : List Char} {value : Literal} (literal : Plain s value) :
      IsLiteral dialect s value
  | hexQuoted {mark : Char} {digits : List Char} {content : List UInt8}
      (marked : mark = 'X' ∨ mark = 'x') (spells : Bytes.Spells digits content) :
      IsLiteral .sqlite (mark :: enclose '\'' '\'' digits) (.bytes content)
  | doubleQuoted (content : List Char) :
      IsLiteral .sqlite (enclose '"' '"' content) (.text (String.ofList content))
  | cast {s cast : List Char} {value : Literal} (casts : Casts s cast value)
      (type : TypeName cast) : IsLiteral .postgres s value
  | hexDigits {mark : Char} {digits : List Char} {content : List UInt8}
      (marked : mark = 'x' ∨ mark = 'X') (spells : Bytes.Spells digits content) :
      IsLiteral .sqlServer ('0' :: mark :: digits) (.bytes content)
  | national {mark : Char} (marked : mark = 'N' ∨ mark = 'n') (content : List Char) :
      IsLiteral .sqlServer (mark :: enclose '\'' '\'' content) (.text (String.ofList content))

/-- A text that is no literal and looks like one at its ends, and what it is taken for. -/
inductive LooksLiteral : Dialect → List Char → Literal → Prop
  /-- Between double quotes stands one that is not doubled. -/
  | loneQuote {inner : List Char} (lone : ∀ content, inner ≠ double '"' content) :
      LooksLiteral .sqlite ('"' :: (inner ++ ['"'])) (.text (String.ofList (collapse '"' inner)))
  /-- Behind the double colon stands more than the name of a type. -/
  | castFurther {s cast : List Char} {value : Literal} (casts : Casts s cast value)
      (further : ¬ TypeName cast) : LooksLiteral .postgres s value

end Grammar

section Digits

/-- Decimal digits stand at 48, and the letters from ten on behind them. -/
theorem to_nat_digit {d : Nat} (small : d < 16) :
    (Bytes.digit 'a' d).toNat = if d < 10 then 48 + d else 87 + d := by
  revert d
  decide

/-- The number of a hexadecimal digit is that of the digit it is in lower case. -/
theorem digit_value?_eq_some_iff {c : Char} {d : Nat} :
    Bytes.digitValue? c = some d ↔ d < 16 ∧ c.toLower = Bytes.digit 'a' d := by
  have places : Bytes.digitValue? c = some d ↔
      d < 16 ∧ c.toLower.toNat = if d < 10 then 48 + d else 87 + d := by
    unfold Bytes.digitValue?
    -- lower case moves the capital letters onto the small ones, and nothing else
    cases upper : c.isUpper with
    | false =>
      have outside := mt Text.is_upper_iff.mpr (Bool.eq_false_iff.mp upper)
      rw [Text.to_lower_of_is_upper_eq_false upper]
      grind
    | true =>
      have bounds := Text.is_upper_iff.mp upper
      rw [Text.to_nat_to_lower upper]
      grind
  refine places.trans (and_congr_right fun small => ?_)
  rw [← to_nat_digit small, Char.toNat_inj]

/-- The two halves of a byte are read back from their number. -/
theorem to_nat_of_nat_halves {high low : Nat} (highSmall : high < 16) (lowSmall : low < 16) :
    (UInt8.ofNat (16 * high + low)).toNat = 16 * high + low := by
  exact UInt8.toNat_ofNat_of_lt' (show _ < 256 by omega)

/-- Bytes are read of the digits that spell them, and of no others. -/
theorem of_hex?_eq_some_iff {digits : List Char} {bytes : List UInt8} :
    Bytes.ofHex? digits = some bytes ↔ Bytes.Spells digits bytes := by
  induction bytes generalizing digits with
  | nil =>
    rcases digits with _ | ⟨high, _ | ⟨low, rest⟩⟩
    · simp [Bytes.ofHex?, Bytes.Spells, Bytes.hexLower, Bytes.hexWith, Text.lowerAscii]
    · simp [Bytes.ofHex?, Bytes.Spells, Bytes.hexLower, Bytes.hexWith, Text.lowerAscii]
    · simp [Bytes.ofHex?, Bytes.Spells, Bytes.hexLower, Bytes.hexWith, Text.lowerAscii,
        Option.bind_eq_some_iff]
  | cons b others inductionHypothesis =>
    rcases digits with _ | ⟨high, _ | ⟨low, rest⟩⟩
    · simp [Bytes.ofHex?, Bytes.Spells, Bytes.hexLower, Bytes.hexWith, Text.lowerAscii]
    · simp [Bytes.ofHex?, Bytes.Spells, Bytes.hexLower, Bytes.hexWith, Text.lowerAscii]
    · have spelled : Bytes.Spells (high :: low :: rest) (b :: others) ↔
          high.toLower = Bytes.digit 'a' (b.toNat / 16) ∧
            low.toLower = Bytes.digit 'a' (b.toNat % 16) ∧ Bytes.Spells rest others := by
        simp [Bytes.Spells, Bytes.hexLower, Bytes.hexWith, Text.lowerAscii]
      have highSmall : b.toNat / 16 < 16 := Nat.div_lt_of_lt_mul b.toNat_lt
      have lowSmall : b.toNat % 16 < 16 := Nat.mod_lt _ (by decide)
      rw [spelled]
      simp only [Bytes.ofHex?, Option.bind_eq_bind, Option.bind_eq_some_iff, Option.pure_def,
        Option.some.injEq, List.cons.injEq]
      constructor
      · rintro ⟨h, readsHigh, l, readsLow, content, reads, rfl, rfl⟩
        obtain ⟨hSmall, highLower⟩ := digit_value?_eq_some_iff.mp readsHigh
        obtain ⟨lSmall, lowLower⟩ := digit_value?_eq_some_iff.mp readsLow
        have highHalf : (16 * h + l) / 16 = h := by omega
        have lowHalf : (16 * h + l) % 16 = l := by omega
        rw [to_nat_of_nat_halves hSmall lSmall, highHalf, lowHalf]
        exact ⟨highLower, lowLower, inductionHypothesis.mp reads⟩
      · rintro ⟨highLower, lowLower, spells⟩
        refine ⟨_, digit_value?_eq_some_iff.mpr ⟨highSmall, highLower⟩, _,
          digit_value?_eq_some_iff.mpr ⟨lowSmall, lowLower⟩, others,
          inductionHypothesis.mpr spells, ?_, rfl⟩
        rw [Nat.div_add_mod, UInt8.ofNat_toNat]

/-- An integer is read of figures without a point, and of nothing else. -/
theorem int_value?_eq_some_iff {s : List Char} {i : Int} :
    Decimal.intValue? s = some i ↔
      Figures (unsigned s) ∧ '.' ∉ s ∧ numberIn? s = some (i : ℚ) := by
  constructor
  · intro reads
    have number := number_in?_of_int_value? reads
    have figures : Figures (unsigned s) := by
      rw [← is_decimal_text_iff, ← number_in?_is_some, number]
      rfl
    refine ⟨figures, ?_, number⟩
    have noPoint (body : List Char) (n : Nat) (natural : Decimal.natValue? body = some n) :
        '.' ∉ body := fun point =>
      absurd (List.all_eq_true.mp (Decimal.nat_value?_eq_some_iff.mp natural).2.1 '.' point)
        (by decide)
    rcases Decimal.int_value?_cases reads with
      ⟨body, n, rfl, natural, _⟩ | ⟨body, n, rfl, natural, _⟩ | ⟨n, natural, _⟩
    · simpa using noPoint body n natural
    · simpa using noPoint body n natural
    · exact noPoint s n natural
  · rintro ⟨figures, whole, number⟩
    have natural : ∃ n, Decimal.natValue? (unsigned s) = some n := by
      obtain ⟨c, member, _⟩ := figures.digit
      refine ⟨_, Decimal.nat_value?_eq_some_iff.mpr ⟨List.ne_nil_of_mem member, ?_, rfl⟩⟩
      refine List.all_eq_true.mpr fun d inside => (figures.legible d inside).resolve_right ?_
      rintro rfl
      refine whole ?_
      unfold unsigned at inside
      split at inside <;> simp_all
    obtain ⟨n, natural⟩ := natural
    have integer : ∃ j, Decimal.intValue? s = some j := by
      unfold unsigned at natural
      unfold Decimal.intValue?
      split at natural <;> simp_all
    obtain ⟨j, reads⟩ := integer
    have same := number_in?_of_int_value? reads
    rw [number, Option.some.injEq, Rat.intCast_inj] at same
    rw [same, reads]

/-- An integer of 64 signed bits is read of figures without a point whose number it is. -/
theorem int64_value?_eq_some_iff {s : List Char} {i : Int64} :
    Decimal.int64Value? s = some i.toInt ↔
      Figures (unsigned s) ∧ '.' ∉ s ∧ numberIn? s = some (i.toInt : ℚ) := by
  rw [← int_value?_eq_some_iff, Decimal.int64Value?, Option.filter_eq_some_iff]
  exact and_iff_left (Decimal.fits_to_int i)

end Digits

end Literal

end SqlAccess
