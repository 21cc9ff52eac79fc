import SqlAccess.Text.Quoted

/-!
# What is taken out of quotes

A text comes out of quotes exactly when it was put into them with every quote in it doubled. The
lenient reading, which lets a lone quote stand, is the strict one where that reads anything, and in
any case what it gives are characters of the text in their order.
-/

namespace SqlAccess.Text.Quoted

/-- A text has two ends exactly when it is what stands between, in them. -/
theorem inside?_eq_some_iff {opening closing : Char} {s inner : List Char} :
    inside? opening closing s = some inner ↔ s = opening :: (inner ++ [closing]) := by
  constructor
  · intro found
    unfold inside? at found
    split at found
    · simp at found
    · rename_i c rest
      split at found
      · rename_i opens
        split at found
        · simp at found
        · rename_i last middle backwards
          split at found
          · rename_i closes
            cases found
            have whole : rest = middle.reverse ++ [last] := by
              rw [← List.reverse_reverse rest, backwards, List.reverse_cons]
            rw [opens, whole, closes]
          · simp at found
      · simp at found
  · rintro rfl
    simp [inside?]

/-- What can be read is what writing produces, and nothing else can. -/
theorem undouble_eq_some_iff {delimiter : Char} {t s : List Char} :
    undouble delimiter t = some s ↔ t = double delimiter s :=
  ⟨eq_double_of_undouble delimiter t s, fun written => written ▸ undouble_double delimiter s⟩

/-- A text is taken out of its delimiters exactly when it was put into them. -/
theorem disclose_eq_some_iff {delimiter : Char} {s content : List Char} :
    disclose delimiter s = some content ↔ s = enclose delimiter delimiter content := by
  simp only [disclose, Option.bind_eq_some_iff, inside?_eq_some_iff, undouble_eq_some_iff]
  constructor
  · rintro ⟨inner, rfl, rfl⟩
    rfl
  · rintro rfl
    exact ⟨_, rfl, rfl⟩

/-- Where no delimiter stands alone, both ways to read pairs agree. -/
theorem collapse_of_undouble {delimiter : Char} {t s : List Char}
    (reads : undouble delimiter t = some s) : collapse delimiter t = s := by
  fun_induction undouble delimiter t generalizing s with
  | case1 => simp_all [collapse]
  | case2 => simp at reads
  | case3 c different => simp_all [collapse]
  | case4 rest inductionHypothesis =>
    obtain ⟨tail, readsTail, rfl⟩ := Option.map_eq_some_iff.mp reads
    simp [collapse, inductionHypothesis readsTail]
  | case5 => simp at reads
  | case6 c next rest different inductionHypothesis =>
    obtain ⟨tail, readsTail, rfl⟩ := Option.map_eq_some_iff.mp reads
    simp [collapse, different, inductionHypothesis readsTail]

/-- The lenient reading gives back what was written, too. -/
theorem collapse_double (delimiter : Char) (s : List Char) :
    collapse delimiter (double delimiter s) = s :=
  collapse_of_undouble (undouble_double delimiter s)

/-- Reading pairs as one leaves some of the characters in their order. -/
theorem collapse_sublist (delimiter : Char) (s : List Char) : (collapse delimiter s).Sublist s := by
  fun_induction collapse delimiter s with
  | case1 => exact List.Sublist.refl _
  | case2 => exact List.Sublist.refl _
  | case3 rest inductionHypothesis => exact (inductionHypothesis.cons_cons _).cons _
  | case4 _ _ _ inductionHypothesis => exact inductionHypothesis.cons_cons _
  | case5 _ _ _ _ inductionHypothesis => exact inductionHypothesis.cons_cons _

/-- What stands between two ends are characters of the text. -/
theorem sublist_of_inside {opening closing : Char} {s inner : List Char}
    (found : inside? opening closing s = some inner) : inner.Sublist s := by
  rw [inside?_eq_some_iff.mp found]
  exact (List.sublist_append_left _ _).cons opening

/-- Doubling keeps how often any other character occurs. -/
theorem count_double {delimiter c : Char} (other : c ≠ delimiter) (s : List Char) :
    (double delimiter s).count c = s.count c := by
  induction s with
  | nil => rfl
  | cons d rest inductionHypothesis =>
    by_cases same : d = delimiter
    · subst same
      simp [double, Ne.symm other, inductionHypothesis]
    · simp [double, same, List.count_cons, inductionHypothesis]

end SqlAccess.Text.Quoted
