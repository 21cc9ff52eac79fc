import SqlAccess.Proofs.Text.AsciiCase
import SqlAccess.Proofs.Text.Trim

/-!
# Lower case and blanks

Lower case is found word by word: a blank is in no table of case, so nothing behind it bears on what
stands in front of it, and the other way round. Blanks around a text therefore stay where they are.
-/

namespace SqlAccess.Text

section Ranges

/-- True when no range of a table touches one of another. -/
def Ranges.apart (own other : Ranges) : Bool :=
  own.all fun range => other.all fun taken => range.2 < taken.1 || taken.2 < range.1

/-- Tables that stand apart share no character. -/
theorem Ranges.holds_eq_false_of_apart {own other : Ranges} {c : Char}
    (apart : own.apart other = true) (inside : own.holds c = true) : other.holds c = false := by
  rw [Bool.eq_false_iff]
  intro both
  obtain ⟨range, listed, least, greatest⟩ := (own.holds_iff c).mp inside
  obtain ⟨taken, otherListed, otherLeast, otherGreatest⟩ := (other.holds_iff c).mp both
  have separate := List.all_eq_true.mp (List.all_eq_true.mp apart range listed) taken otherListed
  simp only [Bool.or_eq_true, decide_eq_true_eq] at separate
  omega

end Ranges

section Blanks

/-- A blank is neither cased nor ignored where case is looked for. -/
theorem uncased_of_is_blank {c : Char} (blank : isBlank c = true) :
    caseIgnorableRanges.holds c = false ∧ casedRanges.holds c = false := by
  have ignorable : blankRanges.apart caseIgnorableRanges = true := by decide +kernel
  have cased : blankRanges.apart casedRanges = true := by decide +kernel
  exact ⟨Ranges.holds_eq_false_of_apart ignorable blank,
    Ranges.holds_eq_false_of_apart cased blank⟩

/-- A blank is its own lower case. -/
theorem lower_char_of_is_blank {c : Char} (blank : isBlank c = true) : lowerChar c = c := by
  unfold lowerChar
  split
  · have capitals : blankRanges.apart [(65, 90)] = true := by decide
    have noCapital := Ranges.holds_eq_false_of_apart capitals blank
    apply to_lower_of_is_upper_eq_false
    rw [Bool.eq_false_iff]
    intro upper
    obtain ⟨least, greatest⟩ := is_upper_iff.mp upper
    have inside : Ranges.holds [(65, 90)] c = true :=
      (Ranges.holds_iff _ c).mpr ⟨(65, 90), List.mem_singleton_self _, least, greatest⟩
    rw [noCapital] at inside
    cases inside
  · have runs : blankRanges.apart (lowercaseRuns.map fun run => (run.1, run.2.1)) = true := by
      decide +kernel
    have outside := Ranges.holds_eq_false_of_apart runs blank
    split
    · rename_i run found
      have bounds := List.find?_some found
      simp only [Bool.and_eq_true, decide_eq_true_eq] at bounds
      have inside : Ranges.holds (lowercaseRuns.map fun run => (run.1, run.2.1)) c = true :=
        (Ranges.holds_iff _ c).mpr ⟨(run.1, run.2.1),
          List.mem_map.mpr ⟨run, List.mem_of_find?_eq_some found, rfl⟩, bounds.1⟩
      rw [outside] at inside
      cases inside
    · rfl

/-- A blank in front of a text is no part of the word that the text begins. -/
theorem lower_from_blank_cons {c : Char} (blank : isBlank c = true) (before rest : List Char) :
    lowerFrom before (c :: rest) = c :: lowerFrom (c :: before) rest := by
  have undotted : c ≠ '\u0130' := by
    rintro rfl
    exact absurd blank (by decide)
  have noSigma : c ≠ '\u03a3' := by
    rintro rfl
    exact absurd blank (by decide)
  simp only [lowerFrom, if_neg undotted, if_neg noSigma, lower_char_of_is_blank blank,
    List.singleton_append]

/-- Case is looked for up to the next blank. -/
theorem starts_cased_append_blank {c : Char} (blank : isBlank c = true) (s rest : List Char) :
    startsCased (s ++ c :: rest) = startsCased s := by
  obtain ⟨counts, uncased⟩ := uncased_of_is_blank blank
  have stops : (c :: rest).dropWhile caseIgnorableRanges.holds = c :: rest :=
    List.dropWhile_cons_of_neg (Bool.eq_false_iff.mp counts)
  simp only [startsCased, List.dropWhile_append, stops]
  cases s.dropWhile caseIgnorableRanges.holds with
  | nil => exact uncased
  | cons d others => rfl

/-- What stands in front of a blank is of no account behind it. -/
theorem lower_from_append_blank {c : Char} (blank : isBlank c = true)
    (before more s : List Char) : lowerFrom (before ++ c :: more) s = lowerFrom before s := by
  induction s generalizing before with
  | nil => rfl
  | cons d rest inductionHypothesis =>
    have later := inductionHypothesis (d :: before)
    rw [List.cons_append] at later
    simp only [lowerFrom, starts_cased_append_blank blank, later]

/-- What stands behind a blank is of no account in front of it. -/
theorem lower_from_before_blank {c : Char} (blank : isBlank c = true) (before s rest : List Char) :
    lowerFrom before (s ++ c :: rest) =
      lowerFrom before s ++ lowerFrom (s.reverse ++ before) (c :: rest) := by
  induction s generalizing before with
  | nil => rfl
  | cons d others inductionHypothesis =>
    simp only [List.cons_append, lowerFrom, starts_cased_append_blank blank,
      inductionHypothesis (d :: before), List.reverse_cons, List.append_assoc, List.nil_append]

/-- Blanks are their own lower case. -/
theorem lower_from_of_blank {s : List Char} (blank : s.all isBlank = true) (before : List Char) :
    lowerFrom before s = s := by
  induction s generalizing before with
  | nil => rfl
  | cons c rest inductionHypothesis =>
    obtain ⟨first, others⟩ := Bool.and_eq_true_iff.mp (List.all_cons.symm.trans blank)
    rw [lower_from_blank_cons first, inductionHypothesis others]

/-- Blanks around a text do not change its lower case. -/
theorem lower_spaced {front back : List Char} (frontBlank : front.all isBlank = true)
    (backBlank : back.all isBlank = true) (s : List Char) :
    lower (front ++ s ++ back) = front ++ lower s ++ back := by
  have behind (t : List Char) : lower (t ++ back) = lower t ++ back := by
    cases back with
    | nil => simp
    | cons c rest =>
      obtain ⟨first, _⟩ := Bool.and_eq_true_iff.mp (List.all_cons.symm.trans backBlank)
      rw [lower, lower_from_before_blank first, lower_from_of_blank backBlank, lower]
  rw [behind]
  congr 1
  induction front with
  | nil => rfl
  | cons c rest inductionHypothesis =>
    obtain ⟨first, others⟩ := Bool.and_eq_true_iff.mp (List.all_cons.symm.trans frontBlank)
    have alone := lower_from_append_blank first [] [] (rest ++ s)
    rw [List.nil_append] at alone
    rw [List.cons_append, lower, lower_from_blank_cons first, alone, List.cons_append]
    exact congrArg (c :: ·) (inductionHypothesis others)

end Blanks

end SqlAccess.Text
