/-!
# Cutting and joining text

Splitting at a separator, finding a part inside a text, and replacing one
character by a text. A split keeps every piece, empty ones too, so joining the
pieces with the separator gives the text back.
-/

namespace SqlAccess.Text

/-- The pieces between the occurrences of a separator; one more than there are occurrences. -/
def splitOn (separator : Char) : List Char → List (List Char)
  | [] => [[]]
  | c :: rest =>
    if c = separator then [] :: splitOn separator rest
    else match splitOn separator rest with
      | [] => [[c]]
      | piece :: pieces => (c :: piece) :: pieces

/-- Cut at the first occurrence of a character, which belongs to neither half. -/
def cutAt (separator : Char) : List Char → Option (List Char × List Char)
  | [] => none
  | c :: rest =>
    if c = separator then some ([], rest)
    else (cutAt separator rest).map fun halves => (c :: halves.1, halves.2)

/-- Cut at the last occurrence of a character, which belongs to neither half. -/
def cutAtLast (separator : Char) (s : List Char) : Option (List Char × List Char) :=
  (cutAt separator s.reverse).map fun halves => (halves.2.reverse, halves.1.reverse)

/-- The text after a given start, when it has that start. -/
def dropStart? : List Char → List Char → Option (List Char)
  | [], s => some s
  | _ :: _, [] => none
  | p :: ps, c :: s => if p = c then dropStart? ps s else none

/-- A text has a start exactly when it is the start with what is behind it. -/
theorem drop_start?_eq_some_iff {start s rest : List Char} :
    dropStart? start s = some rest ↔ s = start ++ rest := by
  induction start generalizing s with
  | nil => simp [dropStart?]
  | cons p ps inductionHypothesis =>
    cases s with
    | nil => simp [dropStart?]
    | cons c others =>
      by_cases same : p = c
      · simp [dropStart?, same, inductionHypothesis]
      · simp [dropStart?, same, Ne.symm same]

/-- The text before a given end, when it has that end. -/
def dropEnd? (ending s : List Char) : Option (List Char) :=
  (dropStart? ending.reverse s.reverse).map List.reverse

/-- Cut at the first occurrence of a part, which belongs to neither half. -/
def cutAtPart (part : List Char) : List Char → Option (List Char × List Char)
  | [] => if part.isEmpty then some ([], []) else none
  | c :: rest =>
    match dropStart? part (c :: rest) with
    | some after => some ([], after)
    | none => (cutAtPart part rest).map fun halves => (c :: halves.1, halves.2)

/-- True when the part occurs in the text. -/
def contains (part s : List Char) : Bool := (cutAtPart part s).isSome

/-- True when the part occurs in the text, on strings. -/
def mentions (s part : String) : Bool := contains part.toList s.toList

/-- The pieces with a separator between neighbours. -/
def joinWith (separator : List Char) : List (List Char) → List Char
  | [] => []
  | piece :: pieces => piece ++ pieces.flatMap fun next => separator ++ next

/-- A split has at least one piece. -/
theorem split_on_ne_nil (separator : Char) (s : List Char) : splitOn separator s ≠ [] := by
  induction s with
  | nil => simp [splitOn]
  | cons c rest inductionHypothesis =>
    unfold splitOn
    split
    · simp
    · split <;> simp

/-- Joining the pieces of a split with the separator gives the text back. -/
theorem join_with_split_on (separator : Char) (s : List Char) :
    joinWith [separator] (splitOn separator s) = s := by
  induction s with
  | nil => rfl
  | cons c rest inductionHypothesis =>
    cases pieces : splitOn separator rest with
    | nil => exact absurd pieces (split_on_ne_nil separator rest)
    | cons piece others =>
      rw [pieces] at inductionHypothesis
      by_cases same : c = separator
      · subst same
        simpa only [splitOn, if_true, joinWith, pieces, List.nil_append, List.flatMap_cons,
          List.singleton_append, List.cons_append, List.cons.injEq, true_and]
          using inductionHypothesis
      · simpa only [splitOn, if_neg same, joinWith, pieces, List.cons_append, List.cons.injEq,
          true_and] using inductionHypothesis

/-- No piece of a split holds the separator. -/
theorem not_mem_of_mem_split_on (separator : Char) (s piece : List Char)
    (member : piece ∈ splitOn separator s) : separator ∉ piece := by
  induction s generalizing piece with
  | nil => simp_all [splitOn]
  | cons c rest inductionHypothesis =>
    unfold splitOn at member
    split at member
    · rcases List.mem_cons.mp member with rfl | later
      · simp
      · exact inductionHypothesis piece later
    · rename_i different
      split at member
      · rename_i none
        exact absurd none (split_on_ne_nil separator rest)
      · rename_i first others pieces
        rcases List.mem_cons.mp member with rfl | later
        · simp only [List.mem_cons, not_or]
          exact ⟨fun same => different same.symm,
            inductionHypothesis first (by simp [pieces])⟩
        · exact inductionHypothesis piece (by simp [pieces, later])

end SqlAccess.Text
