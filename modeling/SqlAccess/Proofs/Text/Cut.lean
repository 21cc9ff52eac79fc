import SqlAccess.Text.Pieces

/-!
# Where a text is cut

A cut at a character is made at its first or at its last occurrence, and there alone: the halves
are those whose near side is free of the character. A split has the pieces that are free of the
separator, so pieces that are joined come apart again.
-/

namespace SqlAccess.Text

variable {c : Char} {s before after : List Char}

/-- What is decided for the characters of a text one by one holds for all of them. -/
theorem forall_mem_of_all {p : Char → Prop} [DecidablePred p]
    (decided : s.all (fun c => decide (p c)) = true) : ∀ c ∈ s, p c :=
  fun c member => of_decide_eq_true (List.all_eq_true.mp decided c member)

/-- A text is divided where its first character outside a class stands. -/
theorem take_while_drop_while_append {p : Char → Bool} {rest : List Char}
    (inside : ∀ c ∈ s, p c = true) (outside : ∀ c ∈ rest.head?, p c = false) :
    (s ++ rest).takeWhile p = s ∧ (s ++ rest).dropWhile p = rest := by
  have stop : rest.takeWhile p = [] ∧ rest.dropWhile p = rest := by
    cases rest with
    | nil => exact ⟨rfl, rfl⟩
    | cons c others =>
      have first := Bool.eq_false_iff.mp (outside c rfl)
      exact ⟨List.takeWhile_cons_of_neg first, List.dropWhile_cons_of_neg first⟩
  rw [List.takeWhile_append_of_pos inside, List.dropWhile_append_of_pos inside, stop.1, stop.2]
  exact ⟨List.append_nil s, rfl⟩

/-- What is dropped at the end of a text stops before a character outside the class. -/
theorem drop_end_while_append_cons {p : Char → Bool} (outside : p c = false)
    (s rest : List Char) :
    ((s ++ c :: rest).reverse.dropWhile p).reverse =
      s ++ c :: (rest.reverse.dropWhile p).reverse := by
  have stops : (c :: s.reverse).dropWhile p = c :: s.reverse :=
    List.dropWhile_cons_of_neg (Bool.eq_false_iff.mp outside)
  rw [List.reverse_append, List.reverse_cons, List.append_assoc, List.singleton_append,
    List.dropWhile_append, stops]
  split
  · rename_i nothing
    simp [List.isEmpty_iff.mp nothing]
  · simp

/-- A cut gives the text before the first occurrence and the text after it. -/
theorem cut_at_eq_some_iff :
    cutAt c s = some (before, after) ↔ s = before ++ c :: after ∧ c ∉ before := by
  induction s generalizing before with
  | nil => simp [cutAt]
  | cons first rest inductionHypothesis =>
    by_cases same : first = c
    · subst same
      cases before with
      | nil => simp [cutAt, eq_comm]
      | cons other others =>
        rw [cutAt, if_pos rfl]
        constructor
        · intro impossible
          cases impossible
        · rintro ⟨whole, free⟩
          exact absurd (List.cons.inj whole).1 (List.ne_of_not_mem_cons free)
    · rw [cutAt, if_neg same, Option.map_eq_some_iff]
      constructor
      · rintro ⟨⟨front, back⟩, cut, halves⟩
        cases halves
        obtain ⟨rfl, free⟩ := inductionHypothesis.mp cut
        exact ⟨rfl, List.not_mem_cons_of_ne_of_not_mem (Ne.symm same) free⟩
      · rintro ⟨whole, free⟩
        cases before with
        | nil => exact absurd (List.cons.inj whole).1 same
        | cons other others =>
          obtain ⟨rfl, rfl⟩ := List.cons.inj whole
          exact ⟨(others, after),
            inductionHypothesis.mpr ⟨rfl, List.not_mem_of_not_mem_cons free⟩, rfl⟩

/-- There is no cut exactly where the character does not occur. -/
theorem cut_at_eq_none_iff : cutAt c s = none ↔ c ∉ s := by
  induction s with
  | nil => simp [cutAt]
  | cons first rest inductionHypothesis =>
    by_cases same : first = c
    · simp [cutAt, same]
    · simp [cutAt, same, inductionHypothesis, Ne.symm same]

/-- A text behind a part without the character is cut where that part ends. -/
theorem cut_at_append (free : c ∉ before) (after : List Char) :
    cutAt c (before ++ c :: after) = some (before, after) :=
  cut_at_eq_some_iff.mpr ⟨rfl, free⟩

/-- Texts that are cut at the same character are the same in both halves. -/
theorem append_cons_inj {other rest : List Char} (free : c ∉ before) (freeOther : c ∉ other)
    (same : before ++ c :: after = other ++ c :: rest) : before = other ∧ after = rest := by
  have cut := congrArg (cutAt c) same
  rw [cut_at_append free, cut_at_append freeOther] at cut
  exact Prod.mk.inj (Option.some.inj cut)

/-- A cut from behind gives the text before the last occurrence and the text after it. -/
theorem cut_at_last_eq_some_iff :
    cutAtLast c s = some (before, after) ↔ s = before ++ c :: after ∧ c ∉ after := by
  have backwards :
      s = before ++ c :: after ↔ s.reverse = after.reverse ++ c :: before.reverse := by
    rw [← List.reverse_inj, List.reverse_append, List.reverse_cons, List.append_assoc,
      List.singleton_append]
  rw [backwards, ← List.mem_reverse, ← cut_at_eq_some_iff, cutAtLast, Option.map_eq_some_iff]
  constructor
  · rintro ⟨⟨back, front⟩, cut, halves⟩
    cases halves
    rw [List.reverse_reverse, List.reverse_reverse]
    exact cut
  · intro cut
    exact ⟨_, cut, by simp⟩

/-- From behind, too, there is no cut exactly where the character does not occur. -/
theorem cut_at_last_eq_none_iff : cutAtLast c s = none ↔ c ∉ s := by
  rw [cutAtLast, Option.map_eq_none_iff, cut_at_eq_none_iff, List.mem_reverse]

/-- A text before a part without the character is cut where that part begins. -/
theorem cut_at_last_append (before : List Char) (free : c ∉ after) :
    cutAtLast c (before ++ c :: after) = some (before, after) :=
  cut_at_last_eq_some_iff.mpr ⟨rfl, free⟩

/-- A part is looked for behind a text in which its first character does not occur. -/
theorem cut_at_part_of_not_mem {first : Char} {part before : List Char} (free : first ∉ before)
    (s : List Char) :
    cutAtPart (first :: part) (before ++ s) =
      (cutAtPart (first :: part) s).map fun halves => (before ++ halves.1, halves.2) := by
  induction before with
  | nil => exact Option.map_id'.symm
  | cons c rest inductionHypothesis =>
    have missing : dropStart? (first :: part) (c :: (rest ++ s)) = none := by
      rw [dropStart?, if_neg (List.ne_of_not_mem_cons free)]
    simp only [List.cons_append, cutAtPart, missing,
      inductionHypothesis (List.not_mem_of_not_mem_cons free), Option.map_map]
    rfl

/-- A part is found where it begins a text. -/
theorem cut_at_part_start (first : Char) (part after : List Char) :
    cutAtPart (first :: part) (first :: part ++ after) = some ([], after) := by
  have found : dropStart? (first :: part) (first :: (part ++ after)) = some after :=
    drop_start?_eq_some_iff.mpr rfl
  simp only [List.cons_append, cutAtPart, found]

/-- A part is found behind a text in which its first character does not occur. -/
theorem cut_at_part_append {first : Char} {part before : List Char} (free : first ∉ before)
    (after : List Char) :
    cutAtPart (first :: part) (before ++ first :: part ++ after) = some (before, after) := by
  rw [List.append_assoc, cut_at_part_of_not_mem free, cut_at_part_start, Option.map_some,
    List.append_nil]

/-- An ending is taken off. -/
theorem drop_end?_append (s ending : List Char) : dropEnd? ending (s ++ ending) = some s := by
  have found : dropStart? ending.reverse (s ++ ending).reverse = some s.reverse :=
    drop_start?_eq_some_iff.mpr List.reverse_append
  rw [dropEnd?, found, Option.map_some, List.reverse_reverse]

/-- A text without the separator is a single piece. -/
theorem split_on_of_not_mem (free : c ∉ s) : splitOn c s = [s] := by
  induction s with
  | nil => rfl
  | cons first rest inductionHypothesis =>
    rw [splitOn, if_neg (Ne.symm (List.ne_of_not_mem_cons free)),
      inductionHypothesis (List.not_mem_of_not_mem_cons free)]

/-- Two texts with a separator between them are split apart from each other. -/
theorem split_on_append (c : Char) (s rest : List Char) :
    splitOn c (s ++ c :: rest) = splitOn c s ++ splitOn c rest := by
  induction s with
  | nil => simp [splitOn]
  | cons first others inductionHypothesis =>
    by_cases same : first = c
    · simp [splitOn, same, inductionHypothesis]
    · cases pieces : splitOn c others with
      | nil => exact absurd pieces (split_on_ne_nil c others)
      | cons piece later =>
        rw [pieces] at inductionHypothesis
        simp [splitOn, same, inductionHypothesis, pieces]

/-- A piece with more pieces behind it. -/
theorem join_with_cons_cons (separator piece next : List Char) (pieces : List (List Char)) :
    joinWith separator (piece :: next :: pieces) =
      piece ++ separator ++ joinWith separator (next :: pieces) := by
  simp [joinWith]

/-- What is joined holds its pieces and separators. -/
theorem mem_join_with {separator : List Char} {pieces : List (List Char)}
    (member : c ∈ joinWith separator pieces) :
    c ∈ separator ∨ ∃ piece ∈ pieces, c ∈ piece := by
  cases pieces with
  | nil => cases member
  | cons piece rest =>
    rcases List.mem_append.mp member with first | later
    · exact Or.inr ⟨piece, List.mem_cons_self, first⟩
    · obtain ⟨next, listed, inside⟩ := List.mem_flatMap.mp later
      exact (List.mem_append.mp inside).imp_right fun found =>
        ⟨next, List.mem_cons_of_mem piece listed, found⟩

/-- What is joined begins with its first piece, and a separator follows. -/
theorem exists_join_with_cons (c : Char) (piece : List Char) (pieces : List (List Char)) :
    ∃ behind, joinWith [c] (piece :: pieces) = piece ++ behind ∧
      ∀ d ∈ behind.head?, d = c := by
  cases pieces with
  | nil => exact ⟨[], rfl, fun _ impossible => nomatch impossible⟩
  | cons next others =>
    refine ⟨c :: joinWith [c] (next :: others), ?_, fun d first => (Option.some.inj first).symm⟩
    rw [join_with_cons_cons, List.append_assoc, List.singleton_append]

/-- Pieces without the separator are those that their join is split into. -/
theorem split_on_join_with {pieces : List (List Char)} (nonempty : pieces ≠ [])
    (free : ∀ piece ∈ pieces, c ∉ piece) : splitOn c (joinWith [c] pieces) = pieces := by
  induction pieces with
  | nil => exact absurd rfl nonempty
  | cons piece rest inductionHypothesis =>
    obtain ⟨own, others⟩ := List.forall_mem_cons.mp free
    cases rest with
    | nil => simpa [joinWith] using split_on_of_not_mem own
    | cons next pieces =>
      rw [join_with_cons_cons, List.append_assoc, List.singleton_append, split_on_append,
        split_on_of_not_mem own, inductionHypothesis (List.cons_ne_nil _ _) others,
        List.singleton_append]

end SqlAccess.Text
