import SqlAccess.Dialect
import SqlAccess.Proofs.Lexical.Scan
import SqlAccess.Proofs.Text.Quoted

/-!
# Places in a statement

Where a character of a statement stands decides whether it separates: not between quotes, where a
closing quote that is written twice is one of the content, and not between parentheses. A text is
closed if it is read from the top, outside both, to the top again, and no separator is met there.
Closed texts stay closed side by side, quoted names are closed whatever they hold, and closed items
with a separator between them come apart again.
-/

namespace SqlAccess.Lexical

open Text

/-- What names and texts are quoted with. -/
inductive Quote where
  | double
  | single
  | bracket
deriving DecidableEq, Repr

namespace Quote

/-- The character that ends what is quoted. -/
def closing : Quote → Char
  | double => '"'
  | single => '\''
  | bracket => ']'

/-- The quotes that a character opens. Only one of the dialects puts names in brackets. -/
def ofOpening? (dialect : Dialect) (c : Char) : Option Quote :=
  if c = '"' then some double
  else if c = '\'' then some single
  else if c = '[' ∧ dialect = .sqlServer then some bracket
  else none

/-- The quotes of names. -/
def ofNames : Dialect → Quote
  | .sqlServer => bracket
  | .sqlite | .postgres => double

/-- The quotes of names are closed by what closes names. -/
@[simp]
theorem closing_of_names (dialect : Dialect) : (ofNames dialect).closing = dialect.closing := by
  cases dialect <;> rfl

/-- The quotes of names are opened by what stands in front of names. -/
theorem of_opening?_opening (dialect : Dialect) :
    ofOpening? dialect dialect.opening = some (ofNames dialect) := by
  cases dialect <;> rfl

end Quote

/-- The characters of quotes. -/
def isQuote (c : Char) : Bool := c == '"' || c == '\'' || c == '[' || c == ']'

/-- Characters that say nothing about where a text is. -/
def isPlain (c : Char) : Bool := !isQuote c && c != '(' && c != ')'

/-- Where the reading of a statement is. -/
inductive Place where
  | outside (depth : Nat)
  | inside (quote : Quote) (depth : Nat)
  /-- Behind a closing quote, which the same character again would make one of the content. -/
  | leaving (quote : Quote) (depth : Nat)
  /-- Behind a parenthesis that closes none. -/
  | broken
deriving DecidableEq, Repr

namespace Place

/-- Outside quotes, between so many parentheses. -/
def isAt (depth : Nat) : Place → Bool
  | outside own | leaving _ own => own == depth
  | inside _ _ | broken => false

/-- Where a character leads that stands outside quotes. -/
def begin (dialect : Dialect) (depth : Nat) (c : Char) : Place :=
  match Quote.ofOpening? dialect c with
  | some quote => inside quote depth
  | none =>
    if c = '(' then outside (depth + 1)
    else if c = ')' then
      match depth with
      | 0 => broken
      | less + 1 => outside less
    else outside depth

/-- Where the reading is after one more character. -/
def next (dialect : Dialect) : Place → Char → Place
  | outside depth, c => begin dialect depth c
  | inside quote depth, c => if c = quote.closing then leaving quote depth else inside quote depth
  | leaving quote depth, c =>
    if c = quote.closing then inside quote depth else begin dialect depth c
  | broken, _ => broken

end Place

/-- The scan that cuts at a separator outside quotes and parentheses. -/
def marks (dialect : Dialect) (separator : Char) : Scan Place where
  next := Place.next dialect
  cuts place c := place.isAt 0 && c == separator

variable {dialect : Dialect} {separator c : Char} {s rest : List Char} {place : Place} {depth : Nat}

section Steps

/-- A quote is a character of quotes. -/
theorem Quote.is_quote_closing (quote : Quote) : isQuote quote.closing = true := by
  cases quote <;> rfl

/-- A plain character leads from outside quotes nowhere else. -/
theorem begin_of_is_plain (plain : isPlain c = true) (depth : Nat) :
    Place.begin dialect depth c = .outside depth := by
  simp only [isPlain, isQuote, Bool.and_eq_true, Bool.not_eq_true', Bool.or_eq_false_iff,
    beq_eq_false_iff_ne, bne_iff_ne] at plain
  obtain ⟨⟨⟨⟨⟨double, single⟩, bracket⟩, _⟩, opens⟩, closes⟩ := plain
  simp [Place.begin, Quote.ofOpening?, double, single, bracket, opens, closes]

/-- A character of no quotes ends what was quoted before it. -/
theorem next_of_is_at (here : place.isAt depth = true) (unquoted : isQuote c = false) :
    Place.next dialect place c = Place.begin dialect depth c := by
  cases place with
  | outside own =>
    obtain rfl : own = depth := by simpa [Place.isAt] using here
    rfl
  | leaving quote own =>
    obtain rfl : own = depth := by simpa [Place.isAt] using here
    refine if_neg ?_
    rintro rfl
    rw [quote.is_quote_closing] at unquoted
    cases unquoted
  | inside _ _ => cases here
  | broken => cases here

/-- A plain character leads to the depth where it stands. -/
theorem next_of_is_plain (here : place.isAt depth = true) (plain : isPlain c = true) :
    Place.next dialect place c = .outside depth := by
  have unquoted : isQuote c = false := by
    simp only [isPlain, Bool.and_eq_true, Bool.not_eq_true'] at plain
    exact plain.1.1
  rw [next_of_is_at here unquoted, begin_of_is_plain plain]

/-- Blanks are plain. -/
theorem is_plain_of_is_blank (blank : isBlank c = true) : isPlain c = true := by
  have apart {other : Char} (ink : isBlank other = false) : c ≠ other := by
    rintro rfl
    rw [ink] at blank
    cases blank
  simp only [isPlain, isQuote, Bool.and_eq_true, Bool.not_eq_true', Bool.or_eq_false_iff,
    beq_eq_false_iff_ne, bne_iff_ne]
  exact ⟨⟨⟨⟨⟨apart (by decide), apart (by decide)⟩, apart (by decide)⟩,
    apart (by decide)⟩, apart (by decide)⟩, apart (by decide)⟩

/-- Only the separator cuts. -/
theorem cuts_of_ne (other : c ≠ separator) (place : Place) :
    (marks dialect separator).cuts place c = false := by
  simp [marks, other]

/-- Nothing cuts but at the top. -/
theorem cuts_of_deep (deep : place.isAt 0 = false) (c : Char) :
    (marks dialect separator).cuts place c = false := by
  simp [marks, deep]

/-- Nothing cuts between parentheses, and only the separator at the top. -/
theorem cuts_of_is_at (here : place.isAt depth = true) (other : depth = 0 → c ≠ separator) :
    (marks dialect separator).cuts place c = false := by
  cases depth with
  | zero => exact cuts_of_ne (other rfl) place
  | succ depth =>
    refine cuts_of_deep ?_ c
    cases place <;> simp_all [Place.isAt]

/-- Plain text is passed where it holds no separator. -/
theorem through_of_is_plain (plain : ∀ c ∈ s, isPlain c = true) (free : separator ∉ s)
    (depth : Nat) :
    (marks dialect separator).through (.outside depth) s = some (.outside depth) := by
  refine Scan.through_of_inert fun c member =>
    ⟨cuts_of_ne ?_ _, begin_of_is_plain (plain c member) depth⟩
  rintro rfl
  exact free member

end Steps

section Names

/-- What is quoted is passed, whatever it is, and the reading is behind it. -/
theorem through_double (apart : isQuote separator = false) (quote : Quote) (depth : Nat)
    (s : List Char) :
    (marks dialect separator).through (.inside quote depth)
      (Quoted.double quote.closing s ++ [quote.closing]) = some (.leaving quote depth) := by
  have inner (c : Char) : (marks dialect separator).cuts (.inside quote depth) c = false :=
    cuts_of_deep rfl c
  have closing : quote.closing ≠ separator := by
    rintro rfl
    rw [quote.is_quote_closing] at apart
    cases apart
  have leaves : (marks dialect separator).next (.inside quote depth) quote.closing =
      .leaving quote depth := if_pos rfl
  have returns : (marks dialect separator).next (.leaving quote depth) quote.closing =
      .inside quote depth := if_pos rfl
  induction s with
  | nil =>
    rw [Quoted.double, List.nil_append, Scan.through_cons (inner _), leaves]
    rfl
  | cons c rest inductionHypothesis =>
    rw [Quoted.double]
    split
    · rw [List.cons_append, List.cons_append, Scan.through_cons (inner _), leaves,
        Scan.through_cons (cuts_of_ne closing _), returns, inductionHypothesis]
    · rename_i other
      have stays : (marks dialect separator).next (.inside quote depth) c = .inside quote depth :=
        if_neg other
      rw [List.cons_append, Scan.through_cons (inner _), stays, inductionHypothesis]

/-- A quoted name is passed, whatever it is, and the reading is behind it. -/
theorem through_name (apart : isQuote separator = false) (depth : Nat) (name : List Char) :
    (marks dialect separator).through (.outside depth)
      (Quoted.enclose dialect.opening dialect.closing name) =
        some (.leaving (Quote.ofNames dialect) depth) := by
  have opening : dialect.opening ≠ separator := by
    rintro rfl
    cases dialect <;> cases apart
  have enters : (marks dialect separator).next (.outside depth) dialect.opening =
      .inside (Quote.ofNames dialect) depth := by
    change Place.begin dialect depth dialect.opening = _
    simp only [Place.begin, Quote.of_opening?_opening]
  rw [Quoted.enclose, Scan.through_cons (cuts_of_ne opening _), enters, ← Quote.closing_of_names]
  exact through_double apart _ depth name

end Names

section Closed

/-- A text that is read from a depth to the same depth, without a separator at the top. -/
def Closed (dialect : Dialect) (separator : Char) (depth : Nat) (s : List Char) : Prop :=
  ∃ place, (marks dialect separator).through (.outside depth) s = some place ∧
    place.isAt depth = true

/-- Whether a text is closed is seen by reading it. -/
instance : Decidable (Closed dialect separator depth s) :=
  decidable_of_iff
    (((marks dialect separator).through (.outside depth) s).any (Place.isAt depth) = true) (by
      simp [Closed, Option.any_eq_true])

/-- A quoted name is closed. -/
theorem closed_name (apart : isQuote separator = false) (depth : Nat) (name : List Char) :
    Closed dialect separator depth (Quoted.enclose dialect.opening dialect.closing name) :=
  ⟨_, through_name apart depth name, beq_self_eq_true depth⟩

/-- Plain text is closed. -/
theorem closed_of_is_plain (plain : ∀ c ∈ s, isPlain c = true) (free : separator ∉ s)
    (depth : Nat) : Closed dialect separator depth s :=
  ⟨_, through_of_is_plain plain free depth, beq_self_eq_true depth⟩

/-- Closed texts with a plain character between them are closed. -/
theorem Closed.beside (closed : Closed dialect separator depth s) (plain : isPlain c = true)
    (other : depth = 0 → c ≠ separator) (later : Closed dialect separator depth rest) :
    Closed dialect separator depth (s ++ c :: rest) := by
  obtain ⟨place, passes, here⟩ := closed
  obtain ⟨after, passesRest, there⟩ := later
  have leads : (marks dialect separator).next place c = .outside depth :=
    next_of_is_plain here plain
  refine ⟨after, ?_, there⟩
  rw [Scan.through_append, passes, Option.bind_some, Scan.through_cons (cuts_of_is_at here other),
    leads, passesRest]

/-- Closed texts behind a plain character are closed with it. -/
theorem Closed.behind (plain : isPlain c = true) (other : depth = 0 → c ≠ separator)
    (closed : Closed dialect separator depth s) : Closed dialect separator depth (c :: s) := by
  have nothing : Closed dialect separator depth [] := ⟨_, rfl, beq_self_eq_true depth⟩
  exact nothing.beside plain other closed

/-- What is closed between parentheses is closed with them. -/
theorem Closed.parens (closed : Closed dialect separator (depth + 1) s)
    (other : '(' ≠ separator) :
    Closed dialect separator depth ('(' :: (s ++ [')'])) := by
  obtain ⟨place, passes, within⟩ := closed
  have enters : (marks dialect separator).next (.outside depth) '(' = .outside (depth + 1) := by
    cases dialect <;> rfl
  have leaves : (marks dialect separator).next place ')' = .outside depth := by
    refine (next_of_is_at within rfl).trans ?_
    cases dialect <;> rfl
  refine ⟨.outside depth, ?_, beq_self_eq_true depth⟩
  rw [Scan.through_cons (cuts_of_ne other _), enters, Scan.through_append, passes,
    Option.bind_some, Scan.through_cons (cuts_of_is_at within nofun), leaves]
  rfl

/-- Closed texts stay closed when they are joined with plain characters. -/
theorem closed_join_with {gap : Char} {items : List (List Char)} (plain : isPlain c = true)
    (other : depth = 0 → c ≠ separator) (plainGap : isPlain gap = true)
    (otherGap : depth = 0 → gap ≠ separator)
    (closed : ∀ item ∈ items, Closed dialect separator depth item) :
    Closed dialect separator depth (joinWith [c, gap] items) := by
  induction items with
  | nil => exact ⟨_, rfl, beq_self_eq_true depth⟩
  | cons item others inductionHypothesis =>
    obtain ⟨own, later⟩ := List.forall_mem_cons.mp closed
    cases others with
    | nil => simpa [joinWith] using own
    | cons next more =>
      rw [join_with_cons_cons, List.append_assoc]
      exact own.beside plain other ((inductionHypothesis later).behind plainGap otherGap)

/-- Behind a parenthesis that closes none nothing is outside quotes again. -/
theorem through_broken {after : Place}
    (passes : (marks dialect separator).through .broken s = some after) : after = .broken := by
  induction s with
  | nil => exact (Option.some.inj passes).symm
  | cons c rest inductionHypothesis =>
    rw [Scan.through_cons (cuts_of_deep rfl c)] at passes
    exact inductionHypothesis passes

/-- A closed text closes no parenthesis that it does not open. -/
theorem Closed.closes (closed : Closed dialect ',' 0 s) : Closed dialect ')' 0 s := by
  obtain ⟨place, passes, here⟩ := closed
  refine ⟨place, ?_, here⟩
  generalize Place.outside 0 = start at passes ⊢
  induction s generalizing start with
  | nil => exact passes
  | cons c rest inductionHypothesis =>
    rw [Scan.through] at passes
    split at passes
    · cases passes
    · -- a closing parenthesis at the top would lead where nothing leads back from
      have uncut : (marks dialect ')').cuts start c = false := by
        refine Bool.eq_false_iff.mpr fun cut => ?_
        obtain ⟨top, rfl⟩ : start.isAt 0 = true ∧ c = ')' := by simpa [marks] using cut
        have lost : (marks dialect ',').next start ')' = .broken := by
          refine (next_of_is_at top rfl).trans ?_
          cases dialect <;> rfl
        rw [lost] at passes
        rw [through_broken passes] at here
        cases here
      rw [Scan.through_cons uncut]
      exact inductionHypothesis _ passes

/-- A closed item brings the reading back to the top behind it. -/
theorem Closed.returns (closed : Closed dialect separator 0 s) (plain : isPlain separator = true) :
    (marks dialect separator).Returns (.outside 0) separator s := by
  obtain ⟨place, passes, here⟩ := closed
  exact ⟨place, passes, by simp [marks, here], next_of_is_plain here plain⟩

/-- A text is closed up to the first separator behind it. -/
theorem Closed.halves?_eq (closed : Closed dialect separator 0 s) (rest : List Char) :
    (marks dialect separator).halves? (.outside 0) (s ++ separator :: rest) = some (s, rest) := by
  obtain ⟨place, passes, here⟩ := closed
  exact Scan.halves?_append_cons passes (by simp [marks, here]) rest

/-- Blanks around the items of a list make no difference to them, up to trimming. -/
theorem map_trim_pieces_marks (ink : isBlank separator = false) (s : List Char) :
    ((marks dialect separator).pieces (.outside 0) (trim s)).map trim =
      ((marks dialect separator).pieces (.outside 0) s).map trim := by
  have still (c : Char) (blank : isBlank c = true) :
      (marks dialect separator).next (.outside 0) c = .outside 0 :=
    begin_of_is_plain (is_plain_of_is_blank blank) 0
  refine Scan.map_trim_pieces_trim (fun place c blank => cuts_of_ne ?_ place) still s
  rintro rfl
  rw [ink] at blank
  cases blank

/-- Closed items with a separator and a blank between them come apart again, up to trimming. -/
theorem map_trim_pieces_join_with {gap : Char} {items : List (List Char)}
    (plain : isPlain separator = true) (ink : isBlank separator = false)
    (blank : isBlank gap = true) (nonempty : items ≠ [])
    (closed : ∀ item ∈ items, Closed dialect separator 0 item) :
    ((marks dialect separator).pieces (.outside 0) (joinWith [separator, gap] items)).map trim =
      items.map trim := by
  have otherGap : gap ≠ separator := by
    rintro rfl
    rw [ink] at blank
    cases blank
  obtain ⟨first, others, rfl⟩ := List.exists_cons_of_ne_nil nonempty
  obtain ⟨own, later⟩ := List.forall_mem_cons.mp closed
  have spaced : joinWith [separator, gap] (first :: others) =
      joinWith [separator] (first :: others.map (gap :: ·)) := by
    simp [joinWith, List.flatMap_map]
  have trimmed (item : List Char) : trim (gap :: item) = trim item := by
    have cut := trim_spaced (show [gap].all isBlank = true by simp [blank]) List.all_nil item
    rwa [List.append_nil] at cut
  rw [spaced, Scan.pieces_join_with (List.cons_ne_nil _ _), List.map_cons, List.map_map,
    List.map_cons]
  · exact congrArg (trim first :: ·) (List.map_congr_left fun item _ => trimmed item)
  · refine List.forall_mem_cons.mpr ⟨own.returns plain, fun piece member => ?_⟩
    obtain ⟨item, listed, rfl⟩ := List.mem_map.mp member
    exact ((later item listed).behind (is_plain_of_is_blank blank) fun _ => otherGap).returns plain

end Closed

end SqlAccess.Lexical
