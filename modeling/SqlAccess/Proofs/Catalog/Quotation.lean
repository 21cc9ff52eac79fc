import SqlAccess.Proofs.Catalog.QuotedName

/-!
# Quotes put on and taken off

A literal and an identifier are written between quotes, with every closing quote inside them
doubled. Main statement: what is taken out of the quotes is what was put into them, for every text,
and no text is a literal that was not written as one. Which texts are literals can be seen without
reading them: they begin and end with a quote, and between the two the quotes stand in runs of even
length. So a quote that is alone, at an end or anywhere inside, is refused.

An identifier is read back in every dialect, also where it is empty or holds closing quotes at its
ends. The reader of identifiers is a lenient one that takes every text for a name; which other
spellings it takes for the same name is left to the spellings of table names.
-/

namespace SqlAccess

namespace Text.Quoted

variable {delimiter c d : Char} {s before : List Char}

/-- The delimiters of a text stand in runs of even length. A run reaches from one end of the text,
or from another character, to the next. -/
def EvenRuns (delimiter : Char) (s : List Char) : Prop :=
  ∀ before count after, s = before ++ List.replicate count delimiter ++ after →
    before.getLast? ≠ some delimiter → after.head? ≠ some delimiter → 2 ∣ count

/-- What a text ends with ends it behind another character, too. -/
theorem get_last?_cons_of_some (last : before.getLast? = some d) :
    (c :: before).getLast? = some d := by
  cases before with
  | nil => cases last
  | cons e more => rwa [List.getLast?_cons_cons]

/-- A text that ends with something else does so behind any other character. -/
theorem get_last?_cons_ne (other : c ≠ delimiter) (ends : before.getLast? ≠ some delimiter) :
    (c :: before).getLast? ≠ some delimiter := by
  cases before with
  | nil => simpa using other
  | cons e more => rwa [List.getLast?_cons_cons]

/-- Another character in front of a text keeps its runs even. -/
theorem EvenRuns.cons (other : c ≠ delimiter) (even : EvenRuns delimiter s) :
    EvenRuns delimiter (c :: s) := by
  intro before count after whole ends begins
  cases before with
  | nil =>
    cases count with
    | zero => exact Nat.dvd_zero 2
    | succ count => exact absurd (List.cons.inj whole).1 other
  | cons e more =>
    obtain ⟨rfl, tail⟩ := List.cons.inj whole
    exact even more count after tail (fun last => ends (get_last?_cons_of_some last)) begins

/-- So does a pair of delimiters, which makes a run longer by two or begins one. -/
theorem EvenRuns.pair (even : EvenRuns delimiter s) :
    EvenRuns delimiter (delimiter :: delimiter :: s) := by
  intro before count after whole ends begins
  match before, count with
  | [], 0 => exact Nat.dvd_zero 2
  | [], 1 =>
    have behind : delimiter :: s = after := by simpa using whole
    exact absurd (by rw [← behind]; rfl) begins
  | [], count + 2 =>
    have shorter : s = [] ++ List.replicate count delimiter ++ after := by
      simpa [List.replicate_succ] using whole
    have divides : 2 ∣ count := even [] count after shorter (by simp) begins
    omega
  | [e], count =>
    have first : delimiter = e := (List.cons.inj whole).1
    exact absurd (by rw [first]; rfl) ends
  | e :: f :: more, count =>
    have shorter : s = more ++ List.replicate count delimiter ++ after :=
      (List.cons.inj (List.cons.inj whole).2).2
    apply even more count after shorter _ begins
    intro last
    exact ends (get_last?_cons_of_some (get_last?_cons_of_some last))

/-- Doubling leaves runs of even length. -/
theorem even_runs_double (delimiter : Char) (content : List Char) :
    EvenRuns delimiter (double delimiter content) := by
  induction content with
  | nil =>
    intro before count after whole _ _
    have none : count = 0 := by simp_all [double]
    exact none ▸ Nat.dvd_zero 2
  | cons c rest inductionHypothesis =>
    by_cases same : c = delimiter
    · rw [double, if_pos same]
      exact inductionHypothesis.pair
    · rw [double, if_neg same]
      exact inductionHypothesis.cons same

/-- A text whose runs are even is read. Where the strict reading stops, it has seen a delimiter that
is a run of its own. -/
theorem exists_undouble_of_even_runs (even : EvenRuns delimiter s) :
    ∃ content, undouble delimiter s = some content := by
  fun_induction undouble delimiter s with
  | case1 => exact ⟨[], rfl⟩
  | case2 =>
    have impossible : 2 ∣ 1 := even [] 1 [] rfl (by simp) (by simp)
    omega
  | case3 c other => exact ⟨[c], rfl⟩
  | case4 rest inductionHypothesis =>
    have shorter : EvenRuns delimiter rest := by
      intro before count after whole ends begins
      cases before with
      | nil =>
        have longer : 2 ∣ count + 2 :=
          even [] (count + 2) after (by simp [List.replicate_succ, whole]) (by simp) begins
        omega
      | cons e more =>
        apply even (delimiter :: delimiter :: e :: more) count after (by simp [whole]) _ begins
        rwa [List.getLast?_cons_cons, List.getLast?_cons_cons]
    obtain ⟨content, reads⟩ := inductionHypothesis shorter
    exact ⟨delimiter :: content, by rw [reads]; rfl⟩
  | case5 next rest other =>
    have impossible : 2 ∣ 1 := even [] 1 (next :: rest) rfl (by simp) (by simpa using other)
    omega
  | case6 c next rest other inductionHypothesis =>
    have shorter : EvenRuns delimiter (next :: rest) := by
      intro before count after whole ends begins
      exact even (c :: before) count after (by simp [whole]) (get_last?_cons_ne other ends) begins
    obtain ⟨content, reads⟩ := inductionHypothesis shorter
    exact ⟨c :: content, by rw [reads]; rfl⟩

/-- The texts that can be read are those whose runs are even. -/
theorem is_some_undouble_iff : (undouble delimiter s).isSome = true ↔ EvenRuns delimiter s := by
  rw [Option.isSome_iff_exists]
  constructor
  · rintro ⟨content, reads⟩
    rw [eq_double_of_undouble delimiter s content reads]
    exact even_runs_double delimiter content
  · exact exists_undouble_of_even_runs

/-- A text is in delimiters exactly when it has them at both ends and, between, runs of even
length. -/
theorem is_some_disclose_iff :
    (disclose delimiter s).isSome = true ↔
      ∃ inner, s = delimiter :: (inner ++ [delimiter]) ∧ EvenRuns delimiter inner := by
  rw [disclose, Option.isSome_bind, Option.any_eq_true]
  simp only [inside?_eq_some_iff, is_some_undouble_iff]

end Text.Quoted

/-- A text is taken out of a literal exactly when the literal was written for it. -/
theorem unquote_text_eq_some_iff {literal s : String} :
    unquoteText literal.toList = some s ↔ quoteText s = literal := by
  rw [unquoteText, Option.map_eq_some_iff]
  constructor
  · rintro ⟨content, reads, rfl⟩
    rw [quoteText, String.toList_ofList, ← Text.Quoted.disclose_eq_some_iff.mp reads,
      String.ofList_toList]
  · rintro rfl
    refine ⟨s.toList, ?_, String.ofList_toList⟩
    rw [quoteText, String.toList_ofList, Text.Quoted.disclose_enclose]

/-- Quotes are taken off as they were put on. A literal gives the text that it was written for, and
a text that is no such literal gives none; the literals are the texts in single quotes whose quotes
inside stand in runs of even length. An identifier of any dialect gives its name.

Proof: doubling the quote of a content and halving runs of it undo each other, and halving succeeds
exactly on runs of even length. Around it stand the two quotes, which are taken off first. -/
theorem quotes_invertible (literal s name : String) (dialect : Dialect) :
    (unquoteText literal.toList = some s ↔ quoteText s = literal) ∧
      ((unquoteText literal.toList).isSome = true ↔
        ∃ inner, literal.toList = '\'' :: (inner ++ ['\'']) ∧
          Text.Quoted.EvenRuns '\'' inner) ∧
      String.ofList (TableName.unquote (dialect.quoteIdentifier name).toList) = name := by
  refine ⟨unquote_text_eq_some_iff, ?_, ?_⟩
  · rw [unquoteText, Option.isSome_map, Text.Quoted.is_some_disclose_iff]
  · have style := TableName.style_mem_styles dialect
    rw [Dialect.quoteIdentifier, String.toList_ofList, TableName.unquote_enclose style,
      String.ofList_toList]

end SqlAccess
