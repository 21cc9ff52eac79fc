import SqlAccess.Text.Ranges

/-!
# White space

Blank characters are those of the Unicode property White_Space, twenty-five code
points. Trimming removes them from both ends and nothing else; a text is blank
when every one of its characters is.
-/

namespace SqlAccess.Text

/-- The property White_Space. -/
def blankRanges : Ranges :=
  [(0x09, 0x0D), (0x20, 0x20), (0x85, 0x85), (0xA0, 0xA0), (0x1680, 0x1680),
   (0x2000, 0x200A), (0x2028, 0x2029), (0x202F, 0x202F), (0x205F, 0x205F), (0x3000, 0x3000)]

/-- White space, beyond the four characters that core knows. -/
def isBlank (c : Char) : Bool := blankRanges.holds c

/-- The text from its first character that is not blank. -/
def trimStart (s : List Char) : List Char := s.dropWhile isBlank

/-- The text up to its last character that is not blank. -/
def trimEnd (s : List Char) : List Char := (s.reverse.dropWhile isBlank).reverse

/-- The text without the blanks at its ends. -/
def trim (s : List Char) : List Char := trimEnd (trimStart s)

/-- `trim` on strings. -/
def trimmed (s : String) : String := String.ofList (trim s.toList)

/-- True when nothing but white space is in the text. -/
def isBlankText (s : String) : Bool := s.toList.all isBlank

/-- Trimming at the start leaves nothing exactly when all is blank. -/
theorem trim_start_eq_nil_iff (s : List Char) : trimStart s = [] ↔ s.all isBlank = true := by
  induction s with
  | nil => simp [trimStart]
  | cons c rest inductionHypothesis =>
    simp only [trimStart] at inductionHypothesis
    by_cases blank : isBlank c = true <;> simp [trimStart, blank, inductionHypothesis]

end SqlAccess.Text
