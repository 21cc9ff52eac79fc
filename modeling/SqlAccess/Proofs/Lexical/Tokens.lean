import SqlAccess.Dialect
import SqlAccess.Proofs.Decimal.Digits
import SqlAccess.Text.Alphabetic
import SqlAccess.Text.Blank

/-!
# The tokens of a statement

A statement is read one character after the other. Names stand between the quotes of the dialect and
texts between single quotes, and a closing quote that is written twice is one of the content; a
token holds the content. Outside quotes stand words, numbers, the places of parameters and signs,
with blanks between them that count for nothing. A statement with a comment in it has no tokens
here, nor has one with quotes that are not closed.

A run over a text goes on where the run over what stands before it ends. That makes the tokens of a
statement those of its parts, wherever a part can be seen to end.
-/

namespace SqlAccess.Lexical

/-- What a token that is longer than a sign is. -/
inductive Kind where
  | word
  | place
  | name
  | text
deriving DecidableEq, Repr

/-- A token of a statement. -/
inductive Token where
  | symbol (c : Char)
  /-- For what is quoted, the content. -/
  | of (kind : Kind) (content : List Char)
deriving DecidableEq, Repr

/-- Where the reading of a statement is. -/
inductive State where
  | between
  /-- In a word, a number or the place of a parameter. -/
  | running (kind : Kind) (done : List Char)
  /-- Between quotes. -/
  | inside (kind : Kind) (done : List Char)
  /-- Behind a closing quote, which the same character again would make one of the content. -/
  | leaving (kind : Kind) (done : List Char)
  /-- Behind a sign that a second one would make the beginning of a comment. -/
  | opener (c : Char)
  | comment
deriving DecidableEq, Repr

/-- The first character of the place of a parameter. -/
def marker : Dialect → Char
  | .sqlite => '?'
  | .postgres => '$'
  | .sqlServer => '@'

/-- The closing quote of a name or a text. -/
def Kind.closing (dialect : Dialect) : Kind → Char
  | .name => dialect.closing
  | .word | .place | .text => '\''

/-- A character that words, numbers and places go on with. -/
def wordInk (c : Char) : Bool := Text.isAlphabetic c || Decimal.isDigit c || c == '_'

/-- What a character begins, and the tokens that it is. -/
def start (dialect : Dialect) (c : Char) : State × List Token :=
  if c = dialect.opening then (.inside .name [], [])
  else if c = '\'' then (.inside .text [], [])
  else if c = marker dialect then (.running .place [c], [])
  else if wordInk c then (.running .word [c], [])
  else if c = '-' ∨ c = '/' then (.opener c, [])
  else if Text.isBlank c then (.between, [])
  else (.between, [.symbol c])

/-- What a character begins that ends a token. -/
def startBehind (dialect : Dialect) (token : Token) (c : Char) : State × List Token :=
  ((start dialect c).1, token :: (start dialect c).2)

/-- Where the reading is after one more character, and the tokens that end with it. -/
def step (dialect : Dialect) : State → Char → State × List Token
  | .between, c => start dialect c
  | .running kind done, c =>
    if wordInk c then (.running kind (done ++ [c]), [])
    else startBehind dialect (.of kind done) c
  | .inside kind done, c =>
    if c = kind.closing dialect then (.leaving kind done, []) else (.inside kind (done ++ [c]), [])
  | .leaving kind done, c =>
    if c = kind.closing dialect then (.inside kind (done ++ [c]), [])
    else startBehind dialect (.of kind done) c
  | .opener first, c =>
    if first = '-' ∧ c = '-' ∨ first = '/' ∧ c = '*' then (.comment, [])
    else startBehind dialect (.symbol first) c
  | .comment, _ => (.comment, [])

/-- Where the reading is after a text, and the tokens that end in it. -/
def run (dialect : Dialect) : State → List Char → State × List Token
  | state, [] => (state, [])
  | state, c :: rest =>
    let next := step dialect state c
    let later := run dialect next.1 rest
    (later.1, next.2 ++ later.2)

/-- The last token, where the reading may end. -/
def finish : State → Option (List Token)
  | .between => some []
  | .running kind done | .leaving kind done => some [.of kind done]
  | .opener c => some [.symbol c]
  | .inside _ _ | .comment => none

/-- The tokens of the rest of a statement. -/
def lexFrom (dialect : Dialect) (state : State) (s : List Char) : Option (List Token) :=
  (finish (run dialect state s).1).map ((run dialect state s).2 ++ ·)

/-- The tokens of a statement. -/
def lex (dialect : Dialect) (s : List Char) : Option (List Token) := lexFrom dialect .between s

section Run

variable {dialect : Dialect}

/-- A run goes on where the first of two texts leaves it. -/
theorem run_append (state : State) (s rest : List Char) :
    run dialect state (s ++ rest) =
      ((run dialect (run dialect state s).1 rest).1,
        (run dialect state s).2 ++ (run dialect (run dialect state s).1 rest).2) := by
  induction s generalizing state with
  | nil => simp [run]
  | cons c others inductionHypothesis => simp [run, inductionHypothesis]

/-- The tokens of a text are those of its first part and those of the rest, from where the first
part leaves the reading. -/
theorem lex_from_append (state : State) (s rest : List Char) :
    lexFrom dialect state (s ++ rest) =
      (lexFrom dialect (run dialect state s).1 rest).map ((run dialect state s).2 ++ ·) := by
  simp [lexFrom, run_append, Function.comp_def]

/-- A word goes on as long as its characters do. -/
theorem run_running (kind : Kind) (done : List Char) {s : List Char}
    (ink : ∀ c ∈ s, wordInk c = true) :
    run dialect (.running kind done) s = (.running kind (done ++ s), []) := by
  induction s generalizing done with
  | nil => simp [run]
  | cons c rest inductionHypothesis =>
    obtain ⟨first, others⟩ := List.forall_mem_cons.mp ink
    simp [run, step, first, inductionHypothesis (done ++ [c]) others]

/-- Between quotes, a content with its closing quotes doubled is read up to the quote behind it. -/
theorem run_inside (kind : Kind) (done s : List Char) :
    run dialect (.inside kind done)
        (Text.Quoted.double (kind.closing dialect) s ++ [kind.closing dialect]) =
      (.leaving kind (done ++ s), []) := by
  induction s generalizing done with
  | nil => simp [Text.Quoted.double, run, step]
  | cons c rest inductionHypothesis =>
    by_cases quote : c = kind.closing dialect
    · simp [Text.Quoted.double, quote, run, step, inductionHypothesis]
    · simp [Text.Quoted.double, quote, run, step, inductionHypothesis]

/-- A quoted name is read as the name, whatever it holds. -/
theorem run_quoted (name : List Char) :
    run dialect .between (Text.Quoted.enclose dialect.opening dialect.closing name) =
      (.leaving .name name, []) := by
  have inside : run dialect (.inside .name [])
      (Text.Quoted.double dialect.closing name ++ [dialect.closing]) = (.leaving .name name, []) :=
    run_inside .name [] name
  simp only [Text.Quoted.enclose, run, step, start, if_true, inside, List.append_nil]

/-- Words go on with digits. -/
theorem word_ink_digit {c : Char} (digit : Decimal.isDigit c = true) : wordInk c = true := by
  simp [wordInk, digit]

/-- A digit begins a word. -/
theorem start_digit {c : Char} (digit : Decimal.isDigit c = true) :
    start dialect c = (.running .word [c], []) := by
  have noMark (d : Char) (mark : Decimal.isDigit d = false) : c ≠ d := by
    rintro rfl
    simp [digit] at mark
  have noOpening : c ≠ dialect.opening := noMark _ (by cases dialect <;> decide)
  have noQuote : c ≠ '\'' := noMark _ (by decide)
  have noMarker : c ≠ marker dialect := noMark _ (by cases dialect <;> decide)
  simp only [start, noOpening, noQuote, noMarker, word_ink_digit digit, if_false, if_true]

/-- The digits of a number are read as a word. -/
theorem run_number (n : Nat) :
    run dialect .between (Decimal.ofNat n) = (.running .word (Decimal.ofNat n), []) := by
  have digits := List.all_eq_true.mp (Decimal.digits_of_nat n)
  obtain ⟨c, rest, whole⟩ := List.exists_cons_of_ne_nil (Decimal.of_nat_ne_nil n)
  rw [whole] at digits ⊢
  obtain ⟨first, others⟩ := List.forall_mem_cons.mp digits
  have ink : ∀ d ∈ rest, wordInk d = true := fun d member =>
    word_ink_digit (others d member)
  simp [run, step, start_digit first, run_running _ _ ink]

/-- The place of a parameter is read as one. -/
theorem run_placeholder (index : Nat) :
    run dialect .between (dialect.placeholder index).toList =
      (.running .place (dialect.placeholder index).toList, []) := by
  have digits : ∀ c ∈ Decimal.ofNat index, wordInk c = true := fun c member =>
    word_ink_digit (List.all_eq_true.mp (Decimal.digits_of_nat index) c member)
  obtain ⟨rest, whole, ink⟩ :
    ∃ rest, (dialect.placeholder index).toList = marker dialect :: rest ∧
      ∀ c ∈ rest, wordInk c = true := by
    cases dialect with
    | sqlite | postgres =>
      exact ⟨Decimal.ofNat index, by simp [Dialect.placeholder, Decimal.natText, marker],
        digits⟩
    | sqlServer =>
      refine ⟨'P' :: Decimal.ofNat index, ?_, ?_⟩
      · simp [Dialect.placeholder, Decimal.natText, marker]
      · exact List.forall_mem_cons.mpr ⟨by decide, digits⟩
  have begins : start dialect (marker dialect) = (.running .place [marker dialect], []) := by
    cases dialect <;> rfl
  rw [whole]
  simp only [run, step, begins, run_running _ _ ink, List.nil_append, List.singleton_append]

end Run

end SqlAccess.Lexical
