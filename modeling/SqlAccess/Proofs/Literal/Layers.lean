import SqlAccess.Literal.Catalog
import SqlAccess.Proofs.Text.Quoted
import SqlAccess.Proofs.Text.Trim

/-!
# Layers of parentheses

A text is balanced when, outside single quotes, every parenthesis in it is closed in it, and every
quote is closed too. Parentheses around a balanced text are redundant: whatever layers of them, with
blanks anywhere between, are put around it, taking them off leads to the same text.
-/

namespace SqlAccess.Literal

/-- The depth of parentheses and whether a quote is open, after a text that began at a depth;
nothing where a parenthesis is closed that was not opened. -/
def scan (depth : Nat) (quoted : Bool) : List Char → Option (Nat × Bool)
  | [] => some (depth, quoted)
  | c :: rest =>
    if c = '\'' then scan depth (!quoted) rest
    else if quoted then scan depth quoted rest
    else if c = '(' then scan (depth + 1) quoted rest
    else if c = ')' then
      match depth with
      | 0 => none
      | outer + 1 => scan outer quoted rest
    else scan depth quoted rest

/-- Outside quotes every parenthesis is closed, and every quote is. -/
def Balanced (s : List Char) : Prop := scan 0 false s = some (0, false)

instance (s : List Char) : Decidable (Balanced s) :=
  inferInstanceAs (Decidable (scan 0 false s = some (0, false)))

/-- A text with any number of layers around it, each a pair of parentheses, and with blanks
around any of them. -/
inductive Wraps (t : List Char) : List Char → Prop
  | itself : Wraps t t
  | spaced {w : List Char} (front back : List Char) (wrapped : Wraps t w)
      (frontBlank : front.all Text.isBlank) (backBlank : back.all Text.isBlank) :
      Wraps t (front ++ w ++ back)
  | layer {w : List Char} (wrapped : Wraps t w) : Wraps t ('(' :: (w ++ [')']))

/-- A text with any number of redundant layers around it: blanks, and parentheses around what is
balanced. -/
inductive Layered (t : List Char) : List Char → Prop
  | itself : Layered t t
  | spaced {w : List Char} (front back : List Char) (layered : Layered t w)
      (frontBlank : front.all Text.isBlank) (backBlank : back.all Text.isBlank) :
      Layered t (front ++ w ++ back)
  | layer {w : List Char} (layered : Layered t w) (balanced : Balanced w) :
      Layered t ('(' :: (w ++ [')']))

section Scan

/-- A scan goes on where the first of two texts leaves it. -/
theorem scan_append (depth : Nat) (quoted : Bool) (s rest : List Char) :
    scan depth quoted (s ++ rest) =
      (scan depth quoted s).bind fun reached => scan reached.1 reached.2 rest := by
  fun_induction scan depth quoted s <;> simp_all [scan]

/-- A scan that begins deeper ends as much deeper. -/
theorem scan_deeper {depth after : Nat} {quoted quotedAfter : Bool} {s : List Char}
    (ends : scan depth quoted s = some (after, quotedAfter)) (more : Nat) :
    scan (depth + more) quoted s = some (after + more, quotedAfter) := by
  fun_induction scan depth quoted s <;> simp_all [scan, Nat.add_right_comm]

/-- Inside a quote, a text with its quotes doubled leaves the quote open. -/
theorem scan_double (depth : Nat) (s rest : List Char) :
    scan depth true (Text.Quoted.double '\'' s ++ rest) = scan depth true rest := by
  induction s with
  | nil => rfl
  | cons c others inductionHypothesis =>
    -- a doubled quote closes the quote and opens it again
    by_cases quote : c = '\'' <;> simpa [Text.Quoted.double, quote, scan] using inductionHypothesis

/-- Texts one behind the other are balanced when both are. -/
theorem Balanced.append {s rest : List Char} (first : Balanced s) (second : Balanced rest) :
    Balanced (s ++ rest) := by
  rw [Balanced, scan_append, first, Option.bind_some]
  exact second

/-- A layer around a balanced text is balanced. -/
theorem Balanced.layer {s : List Char} (balanced : Balanced s) :
    Balanced ('(' :: (s ++ [')'])) := by
  have inner : scan 1 false s = some (1, false) := scan_deeper balanced 1
  simp [Balanced, scan, scan_append, inner]

/-- A text without quotes and parentheses is balanced. -/
theorem balanced_of_plain {s : List Char}
    (plain : ∀ c ∈ s, c ≠ '\'' ∧ c ≠ '(' ∧ c ≠ ')') :
    Balanced s := by
  induction s with
  | nil => rfl
  | cons c rest inductionHypothesis =>
    obtain ⟨noQuote, noOpening, noClosing⟩ := plain c List.mem_cons_self
    simpa [Balanced, scan, noQuote, noOpening, noClosing] using
      inductionHypothesis fun d member => plain d (List.mem_cons_of_mem c member)

/-- A quoted text is balanced, whatever it holds. -/
theorem balanced_enclose (s : List Char) : Balanced (Text.Quoted.enclose '\'' '\'' s) := by
  simp [Balanced, Text.Quoted.enclose, scan, scan_double]

example : Balanced "coalesce(a, ':-(')".toList ∧ ¬ Balanced "(a) + (b".toList := by decide

/-- Blanks are neither quotes nor parentheses. -/
theorem balanced_of_blank {s : List Char} (blank : s.all Text.isBlank = true) : Balanced s := by
  refine balanced_of_plain fun c member => ?_
  have holds := List.all_eq_true.mp blank c member
  refine ⟨?_, ?_, ?_⟩ <;> rintro rfl <;> exact absurd holds (by decide)

/-- A balanced text has balanced layers. -/
theorem Wraps.balanced {t w : List Char} (wraps : Wraps t w) (balanced : Balanced t) :
    Balanced w := by
  induction wraps with
  | itself => exact balanced
  | spaced front back _ frontBlank backBlank inductionHypothesis =>
    exact ((balanced_of_blank frontBlank).append inductionHypothesis).append
      (balanced_of_blank backBlank)
  | layer _ inductionHypothesis => exact inductionHypothesis.layer

/-- Around a balanced text every layer is redundant. -/
theorem Wraps.layered {t w : List Char} (wraps : Wraps t w) (balanced : Balanced t) :
    Layered t w := by
  induction wraps with
  | itself => exact .itself
  | spaced front back _ frontBlank backBlank inductionHypothesis =>
    exact .spaced front back inductionHypothesis frontBlank backBlank
  | layer wrapped inductionHypothesis =>
    exact .layer inductionHypothesis (wrapped.balanced balanced)

/-- Redundant layers are layers. -/
theorem Layered.wraps {t w : List Char} (layered : Layered t w) : Wraps t w := by
  induction layered with
  | itself => exact .itself
  | spaced front back _ frontBlank backBlank inductionHypothesis =>
    exact .spaced front back inductionHypothesis frontBlank backBlank
  | layer _ _ inductionHypothesis => exact .layer inductionHypothesis

end Scan

section Strip

/-- One layer up, the parenthesis behind a text closes the outermost one, and none does before,
exactly when the scan of the text ends at depth zero with no quote open. -/
theorem closes_at_end_append_iff (depth : Nat) (quoted : Bool) (s : List Char) :
    closesAtEnd (depth + 1) quoted (s ++ [')']) = true ↔
      scan depth quoted s = some (0, false) := by
  -- along the scan, whose depth is one less than that of the whole layer
  fun_induction scan depth quoted s with
  | case1 depth quoted =>
    cases quoted with
    | false => simp [closesAtEnd]
    | true =>
      have deep : ¬ ((depth : Int) + 1 = 0) := by omega
      simp [closesAtEnd, deep]
  | case2 depth quoted rest inductionHypothesis =>
    simpa [closesAtEnd] using inductionHypothesis
  | case3 depth c rest noQuote inductionHypothesis =>
    simpa [closesAtEnd, noQuote] using inductionHypothesis
  | case4 depth quoted rest unquoted noQuote inductionHypothesis =>
    simpa [closesAtEnd, unquoted] using inductionHypothesis
  | case5 quoted rest unquoted noQuote noOpening =>
    -- the layer itself is closed here, before its last character
    simp [closesAtEnd, unquoted]
  | case6 quoted rest unquoted outer noQuote noOpening inductionHypothesis =>
    have inside : ¬ ((outer : Int) + 1 = 0) := by omega
    simpa [closesAtEnd, unquoted, inside] using inductionHypothesis
  | case7 depth quoted c rest noQuote unquoted noOpening noClosing inductionHypothesis =>
    simpa [closesAtEnd, noQuote, unquoted, noOpening, noClosing] using inductionHypothesis

/-- The first parenthesis is closed by the last character exactly when what stands between them is
balanced. -/
theorem closes_at_end_iff_balanced (between : List Char) :
    closesAtEnd 0 false ('(' :: (between ++ [')'])) = true ↔ Balanced between := by
  rw [Balanced, ← closes_at_end_append_iff 0 false between]
  simp [closesAtEnd]

/-- A parenthesis in a quote counts for none, and one may be closed before the end. -/
example : closesAtEnd 0 false "(')')".toList = true ∧
    closesAtEnd 0 false "(a) + (b)".toList = false := by decide

/-- A layer comes off exactly when it is redundant, with the blanks inside it. -/
theorem peel?_eq_some_iff {s inner : List Char} :
    peel? s = some inner ↔
      ∃ between, s = '(' :: (between ++ [')']) ∧ Balanced between ∧
        inner = Text.trim between := by
  constructor
  · intro peels
    unfold peel? at peels
    split at peels
    · rename_i between ends
      obtain rfl := Text.Quoted.inside?_eq_some_iff.mp ends
      split at peels
      · rename_i closes
        cases peels
        exact ⟨between, rfl, (closes_at_end_iff_balanced between).mp closes, rfl⟩
      · simp at peels
    · simp at peels
  · rintro ⟨between, rfl, balanced, rfl⟩
    have ends : Text.Quoted.inside? '(' ')' ('(' :: (between ++ [')'])) = some between :=
      Text.Quoted.inside?_eq_some_iff.mpr rfl
    simp only [peel?, ends, if_pos ((closes_at_end_iff_balanced between).mpr balanced)]

/-- A text with no layer stays as it is. -/
theorem strip_layers_of_bare {s : List Char} (bare : peel? s = none) : stripLayers s = s := by
  rw [stripLayers]
  split
  · simp_all
  · rfl

/-- A layer that comes off is of no account. -/
theorem strip_layers_of_peel {s inner : List Char} (peels : peel? s = some inner) :
    stripLayers s = stripLayers inner := by
  rw [stripLayers]
  split <;> simp_all

/-- Blanks around a text are of no account. -/
theorem strip_parens_spaced {front back : List Char} (frontBlank : front.all Text.isBlank = true)
    (backBlank : back.all Text.isBlank = true) (s : List Char) :
    stripParens (front ++ s ++ back) = stripParens s := by
  rw [stripParens, Text.trim_spaced frontBlank backBlank, stripParens]

/-- A layer around a balanced text is of no account. -/
theorem strip_parens_layer {s : List Char} (balanced : Balanced s) :
    stripParens ('(' :: (s ++ [')'])) = stripParens s := by
  have trimmed : Text.Trimmed ('(' :: (s ++ [')'])) :=
    Text.trimmed_of_ends (by decide) s (by decide)
  have peels : peel? ('(' :: (s ++ [')'])) = some (Text.trim s) :=
    peel?_eq_some_iff.mpr ⟨s, rfl, balanced, rfl⟩
  rw [stripParens, trimmed.trim_eq, strip_layers_of_peel peels, stripParens]

/-- Redundant layers are of no account. -/
theorem Layered.strip_parens_eq {t w : List Char} (layered : Layered t w) :
    stripParens w = stripParens t := by
  induction layered with
  | itself => rfl
  | spaced front back _ frontBlank backBlank inductionHypothesis =>
    rw [strip_parens_spaced frontBlank backBlank, inductionHypothesis]
  | layer _ balanced inductionHypothesis =>
    rw [strip_parens_layer balanced, inductionHypothesis]

/-- Layers around a balanced text are of no account. -/
theorem Wraps.strip_parens_eq {t w : List Char} (wraps : Wraps t w) (balanced : Balanced t) :
    stripParens w = stripParens t := (wraps.layered balanced).strip_parens_eq

/-- What is left is trimmed and has no layer. -/
theorem strip_layers_bare {s : List Char} (trimmed : Text.Trimmed s) :
    Text.Trimmed (stripLayers s) ∧ peel? (stripLayers s) = none := by
  fun_induction stripLayers s with
  | case1 s inner peels inductionHypothesis =>
    obtain ⟨between, _, _, rfl⟩ := peel?_eq_some_iff.mp peels
    exact inductionHypothesis (Text.trimmed_trim between)
  | case2 s bare => exact ⟨trimmed, bare⟩

/-- What is trimmed and has no layer stays as it is. -/
theorem strip_parens_of_bare {s : List Char} (trimmed : Text.Trimmed s) (bare : peel? s = none) :
    stripParens s = s := by
  rw [stripParens, trimmed.trim_eq, strip_layers_of_bare bare]

/-- Nothing is left to take off. -/
theorem strip_parens_strip_parens (s : List Char) :
    stripParens (stripParens s) = stripParens s := by
  obtain ⟨trimmed, bare⟩ := strip_layers_bare (Text.trimmed_trim s)
  exact strip_parens_of_bare trimmed bare

/-- Blanks around what is layered are redundant, too. -/
theorem Layered.of_trim {t s : List Char} (layered : Layered t (Text.trim s)) : Layered t s := by
  obtain ⟨front, back, whole, frontBlank, backBlank⟩ := Text.exists_spaced s
  rw [whole]
  exact .spaced front back layered frontBlank backBlank

/-- What is taken off is blanks and redundant layers. -/
theorem layered_strip_parens (s : List Char) : Layered (stripParens s) s := by
  have layers (t : List Char) : Layered (stripLayers t) t := by
    fun_induction stripLayers t with
    | case1 t inner peels inductionHypothesis =>
      obtain ⟨between, rfl, balanced, rfl⟩ := peel?_eq_some_iff.mp peels
      exact .layer inductionHypothesis.of_trim balanced
    | case2 t bare => exact .itself
  exact (layers (Text.trim s)).of_trim

/-- What is taken off is layers and blanks, and nothing else. -/
theorem wraps_strip_parens (s : List Char) : Wraps (stripParens s) s :=
  (layered_strip_parens s).wraps

end Strip

end SqlAccess.Literal
