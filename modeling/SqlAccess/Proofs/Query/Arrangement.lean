import SqlAccess.Proofs.Query.Meaning

/-!
# Rows with distinct keys

Where the keys of a table are distinct and none is missing, an engine has no choice: the rows have
one arrangement, and the rows behind the greatest of the first keys are those that follow them, as
are the rows behind the key of the last of these.
-/

namespace SqlAccess.Query

section Keyed

variable {R K : Type} {cell : R → Option K} {rows arranged : List R}

/-- The keys of rows are all there, and no two rows have the same one. -/
structure Keyed (cell : R → Option K) (rows : List R) : Prop where
  present : ∀ row ∈ rows, (cell row).isSome = true
  distinct : rows.Pairwise fun first second => cell first ≠ cell second

/-- A selection of rows with distinct keys has distinct keys. -/
theorem Keyed.filter (keyed : Keyed cell rows) (keeps : R → Bool) :
    Keyed cell (rows.filter keeps) where
  present row member := keyed.present row (List.mem_filter.mp member).1
  distinct := keyed.distinct.filter keeps

/-- Rows with distinct keys have the keys distinct in any arrangement. -/
theorem Keyed.perm (keyed : Keyed cell rows) (permuted : arranged.Perm rows) :
    Keyed cell arranged where
  present row member := keyed.present row (permuted.subset member)
  distinct := keyed.distinct.perm permuted.symm fun different => different.symm

end Keyed

section Arrangements

variable {R K : Type} [LinearOrder K] {cell : R → Option K} {rows arranged : List R}

/-- An order of all keys, the missing ones first. -/
def comesFirst : Option K → Option K → Bool
  | none, _ => true
  | some _, none => false
  | some low, some high => decide (low ≤ high)

/-- Rows can always be arranged. -/
theorem exists_arranged (cell : R → Option K) (rows : List R) :
    ∃ arranged, Arranged .ascending cell rows arranged := by
  have transitive (a b c : R) : comesFirst (cell a) (cell b) = true →
      comesFirst (cell b) (cell c) = true → comesFirst (cell a) (cell c) = true := by
    cases cell a <;> cases cell b <;> cases cell c <;> simp [comesFirst]
    exact fun first second => le_trans first second
  have total (a b : R) :
      (comesFirst (cell a) (cell b) || comesFirst (cell b) (cell a)) = true := by
    cases cell a <;> cases cell b <;> simp [comesFirst, le_total]
  refine ⟨rows.mergeSort fun a b => comesFirst (cell a) (cell b),
    List.mergeSort_perm rows _, ?_⟩
  apply (List.pairwise_mergeSort transitive total rows).imp
  intro earlier later inOrder low isLow high isHigh
  have atMost : low ≤ high := by
    simpa [comesFirst, Option.mem_def.mp isLow, Option.mem_def.mp isHigh] using inOrder
  exact atMost

/-- In an arrangement of distinct keys every key is less than all later ones. -/
theorem Keyed.strict (keyed : Keyed cell rows) (arranges : Arranged .ascending cell rows arranged) :
    arranged.Pairwise fun earlier later =>
      Comparison.greater.holds (cell later) (cell earlier) = true := by
  have both := (keyed.perm arranges.1).distinct.and arranges.2
  apply both.imp_of_mem
  rintro earlier later earlierIn laterIn ⟨different, inOrder⟩
  obtain ⟨low, isLow⟩ := Option.isSome_iff_exists.mp
    (keyed.present earlier (arranges.1.subset earlierIn))
  obtain ⟨high, isHigh⟩ := Option.isSome_iff_exists.mp
    (keyed.present later (arranges.1.subset laterIn))
  have below : low ≤ high := inOrder low isLow high isHigh
  have apart : low ≠ high := fun same => different (by rw [isLow, isHigh, same])
  simpa [Comparison.holds, Comparison.relates, isLow, isHigh] using lt_of_le_of_ne below apart

/-- Rows with distinct keys have one arrangement only. -/
theorem Keyed.arranged_unique (keyed : Keyed cell rows) {first second : List R}
    (firstArranges : Arranged .ascending cell rows first)
    (secondArranges : Arranged .ascending cell rows second) : first = second := by
  apply List.Perm.eq_of_pairwise _ (keyed.strict firstArranges) (keyed.strict secondArranges)
    (firstArranges.1.trans secondArranges.1.symm)
  -- No two keys exceed each other.
  intro a b _ _ ab ba
  cases isA : cell a with
  | none => simp [Comparison.holds, isA] at ab
  | some keyA =>
    cases isB : cell b with
    | none => simp [Comparison.holds, isB] at ab
    | some keyB =>
      simp only [Comparison.holds, Comparison.relates, isA, isB, decide_eq_true_eq] at ab ba
      exact absurd ba (lt_asymm ab)

/-- What passes a filter is arranged as it was. -/
theorem Arranged.filter (arranges : Arranged .ascending cell rows arranged) (keeps : R → Bool) :
    Arranged .ascending cell (rows.filter keeps) (arranged.filter keeps) :=
  ⟨arranges.1.filter keeps, arranges.2.filter keeps⟩

/-- The rows whose keys exceed the greatest of the first keys are those that follow them. -/
theorem filter_exceeds_eq_drop
    (strict : arranged.Pairwise fun earlier later =>
      Comparison.greater.holds (cell later) (cell earlier) = true)
    (count : Nat) {bound : K} (reached : ∃ row ∈ arranged.take count, cell row = some bound)
    (greatest : ∀ row ∈ arranged.take count, ∀ key ∈ cell row, key ≤ bound) :
    (arranged.filter fun row => Comparison.greater.holds (cell row) (some bound)) =
      arranged.drop count := by
  obtain ⟨last, lastIn, isLast⟩ := reached
  have apart := strict
  rw [← List.take_append_drop count arranged, List.pairwise_append] at apart
  have noneBefore :
      (arranged.take count).filter
        (fun row => Comparison.greater.holds (cell row) (some bound)) = [] := by
    rw [List.filter_eq_nil_iff]
    intro row member exceeding
    cases isKey : cell row with
    | none => simp [Comparison.holds, isKey] at exceeding
    | some key =>
      have atMost : key ≤ bound := greatest row member key isKey
      simp only [Comparison.holds, Comparison.relates, isKey, decide_eq_true_eq] at exceeding
      exact absurd exceeding (not_lt_of_ge atMost)
  have allAfter : (arranged.drop count).filter
      (fun row => Comparison.greater.holds (cell row) (some bound)) = arranged.drop count := by
    rw [List.filter_eq_self]
    intro row member
    have beyond := apart.2.2 last lastIn row member
    rwa [isLast] at beyond
  conv_lhs => rw [← List.take_append_drop count arranged]
  rw [List.filter_append, noneBefore, allAfter, List.nil_append]

/-- The greatest key of rows with keys is the key of one of them, and there is none only where
there is no row. -/
theorem greatest_cases (present : ∀ row ∈ rows, (cell row).isSome = true) :
    (rows = [] ∧ Aggregate.greatest.value (rows.map cell) = none) ∨
      ∃ bound, Aggregate.greatest.value (rows.map cell) = some bound ∧
        (∃ row ∈ rows, cell row = some bound) ∧
        ∀ row ∈ rows, ∀ key ∈ cell row, key ≤ bound := by
  have keyOf {key : K} (member : key ∈ (rows.map cell).filterMap id) :
      ∃ row ∈ rows, cell row = some key := by simpa using member
  have lawful : Std.LawfulOrderMax K :=
    { max_le_iff := fun _ _ _ => max_le_iff, max_eq_or := max_choice }
  cases found : Aggregate.greatest.value (rows.map cell) with
  | none =>
    refine Or.inl ⟨?_, rfl⟩
    rw [Aggregate.value, List.max?_eq_none_iff] at found
    cases rows with
    | nil => rfl
    | cons row rest =>
      obtain ⟨key, isKey⟩ := Option.isSome_iff_exists.mp (present row List.mem_cons_self)
      simp [isKey] at found
  | some bound =>
    rw [Aggregate.value, List.max?_eq_some_iff] at found
    refine Or.inr ⟨bound, rfl, keyOf found.1, fun row member key isKey => ?_⟩
    refine found.2 key ?_
    simpa using ⟨row, member, Option.mem_def.mp isKey⟩

/-- The rows beyond the greatest of the first keys follow them, also where these are all rows or
there is no row at all. -/
theorem filter_greatest_eq_drop (keyed : Keyed cell rows)
    (arranges : Arranged .ascending cell rows arranged) {count : Nat}
    (some : 0 < count) :
    (arranged.filter fun row => Comparison.greater.holds (cell row)
        (Aggregate.greatest.value ((arranged.take count).map cell))) = arranged.drop count := by
  have present : ∀ row ∈ arranged.take count, (cell row).isSome = true :=
    fun row member => (keyed.perm arranges.1).present row (List.mem_of_mem_take member)
  rcases greatest_cases present with ⟨noRow, isNull⟩ | ⟨bound, isBound, reached, atMost⟩
  · have nothing : arranged = [] := by
      rcases List.take_eq_nil_iff.mp noRow with none | empty
      · omega
      · exact empty
    rw [nothing]
    simp
  · rw [isBound]
    exact filter_exceeds_eq_drop (keyed.strict arranges) count reached atMost

/-- The rows beyond the key of the last of the first rows follow them. -/
theorem filter_key_eq_drop (keyed : Keyed cell rows)
    (arranges : Arranged .ascending cell rows arranged) {before : Nat} {row : R}
    (last : arranged[before]? = some row) :
    (arranged.filter fun other => Comparison.greater.holds (cell other) (cell row)) =
      arranged.drop (before + 1) := by
  have strict := keyed.strict arranges
  have first : arranged.take (before + 1) = arranged.take before ++ [row] := by
    rw [List.take_add_one, last, Option.toList_some]
  have apart := strict
  rw [← List.take_append_drop (before + 1) arranged, first, List.append_assoc,
    List.pairwise_append] at apart
  have member : row ∈ arranged := List.mem_of_getElem? last
  obtain ⟨bound, isBound⟩ := Option.isSome_iff_exists.mp
    ((keyed.perm arranges.1).present row member)
  rw [isBound]
  refine filter_exceeds_eq_drop strict (before + 1) ⟨row, by simp [first], isBound⟩ ?_
  intro other inFirst otherKey isKey
  rw [first] at inFirst
  rcases List.mem_append.mp inFirst with earlier | same
  · have below := apart.2.2 other earlier row (by simp)
    simp only [Comparison.holds, Comparison.relates, isBound, Option.mem_def.mp isKey,
      decide_eq_true_eq] at below
    exact le_of_lt below
  · rw [List.mem_singleton.mp same, isBound] at isKey
    exact le_of_eq (Option.some.inj isKey).symm

end Arrangements

end SqlAccess.Query
