/-!
# Doubled delimiters

A quoted text is closed by a delimiter, and a delimiter inside it is written
twice. `double` and `undouble` are the two directions. Reading accepts exactly
what writing produces, so each text has one quoted form.
-/

namespace SqlAccess.Text.Quoted

/-- Write every delimiter twice. -/
def double (delimiter : Char) : List Char → List Char
  | [] => []
  | c :: rest =>
    if c = delimiter then delimiter :: delimiter :: double delimiter rest
    else c :: double delimiter rest

/-- Read each pair of delimiters as one; refuse a delimiter that stands alone. -/
def undouble (delimiter : Char) : List Char → Option (List Char)
  | [] => some []
  | [c] => if c = delimiter then none else some [c]
  | c :: next :: rest =>
    if c = delimiter then
      if next = delimiter then (undouble delimiter rest).map (delimiter :: ·) else none
    else (undouble delimiter (next :: rest)).map (c :: ·)

/-- Read each pair of delimiters as one and let a lone delimiter stand, from left to right. -/
def collapse (delimiter : Char) : List Char → List Char
  | [] => []
  | [c] => [c]
  | c :: next :: rest =>
    if c = delimiter then
      if next = delimiter then delimiter :: collapse delimiter rest
      else c :: collapse delimiter (next :: rest)
    else c :: collapse delimiter (next :: rest)

/-- The text between an opening and a closing delimiter, with closing delimiters inside doubled. -/
def enclose (opening closing : Char) (s : List Char) : List Char :=
  opening :: (double closing s ++ [closing])

/-- The characters between a first and a last one, when the text has these ends and they are
two characters. -/
def inside? (opening closing : Char) : List Char → Option (List Char)
  | [] => none
  | c :: rest =>
    if c = opening then
      match rest.reverse with
      | [] => none
      | last :: middle => if last = closing then some middle.reverse else none
    else none

/-- The text that `enclose` was given, for one delimiter on both sides. -/
def disclose (delimiter : Char) (s : List Char) : Option (List Char) :=
  (inside? delimiter delimiter s).bind (undouble delimiter)

/-- Reading what was written gives the text back. -/
theorem undouble_double (delimiter : Char) (s : List Char) :
    undouble delimiter (double delimiter s) = some s := by
  induction s with
  | nil => rfl
  | cons c rest inductionHypothesis =>
    by_cases same : c = delimiter
    · simp [double, undouble, same, inductionHypothesis]
    · cases written : double delimiter rest with
      | nil =>
        rw [written] at inductionHypothesis
        have empty : rest = [] := by simpa [undouble, eq_comm] using inductionHypothesis
        simp [double, undouble, same, empty]
      | cons next others =>
        rw [written] at inductionHypothesis
        simp [double, undouble, same, written, inductionHypothesis]

/-- What can be read is what writing produces. -/
theorem eq_double_of_undouble (delimiter : Char) (t s : List Char)
    (reads : undouble delimiter t = some s) : t = double delimiter s := by
  fun_induction undouble delimiter t generalizing s with
  | case1 => simp_all [double]
  | case2 => simp at reads
  | case3 c different => simp_all [double, eq_comm]
  | case4 rest inductionHypothesis =>
    obtain ⟨tail, readsTail, rfl⟩ := Option.map_eq_some_iff.mp reads
    simp [double, inductionHypothesis tail readsTail]
  | case5 => simp at reads
  | case6 c next rest different inductionHypothesis =>
    obtain ⟨tail, readsTail, rfl⟩ := Option.map_eq_some_iff.mp reads
    simp [double, different, inductionHypothesis tail readsTail]

/-- A text without the delimiter is written as it is. -/
theorem double_of_not_mem {delimiter : Char} {s : List Char} (absent : delimiter ∉ s) :
    double delimiter s = s := by
  induction s with
  | nil => rfl
  | cons c rest inductionHypothesis =>
    simp only [List.mem_cons, not_or] at absent
    rw [double, if_neg (Ne.symm absent.1), inductionHypothesis absent.2]

/-- The two ends of an enclosed text come off again. -/
theorem inside_enclose (opening closing : Char) (s : List Char) :
    inside? opening closing (enclose opening closing s) = some (double closing s) := by
  simp [inside?, enclose]

/-- A text comes out of its delimiters as it was put in. -/
theorem disclose_enclose (delimiter : Char) (s : List Char) :
    disclose delimiter (enclose delimiter delimiter s) = some s := by
  rw [disclose, inside_enclose, Option.bind_some, undouble_double]

end SqlAccess.Text.Quoted
