import SqlAccess.ConnectionString.DatabaseName
import SqlAccess.Proofs.Text.LowerCase
import SqlAccess.Proofs.Text.Trim

/-!
# The characters of a database name

A database name is put into strings of several grammars. It never disturbs them, because it holds
letters, numbers and three marks only: nothing that is blank, and none of the characters that mean
something where the name is put.
-/

namespace SqlAccess

namespace Text

/-- Letters are in the table also where core decides about them. -/
theorem holds_of_is_alphabetic {c : Char} (letter : isAlphabetic c = true) :
    alphabeticRanges.holds c = true := by
  unfold isAlphabetic at letter
  split at letter
  · rw [Ranges.holds_iff]
    rcases is_alpha_iff.mp letter with upper | lower
    · exact ⟨(0x41, 0x5A), by decide, is_upper_iff.mp upper⟩
    · exact ⟨(0x61, 0x7A), by decide, is_lower_iff.mp lower⟩
  · exact letter

/-- So are numbers. -/
theorem holds_of_is_alphanumeric {c : Char} (sign : isAlphanumeric c = true) :
    alphabeticRanges.holds c = true ∨ numberRanges.holds c = true := by
  rw [isAlphanumeric, Bool.or_eq_true] at sign
  rcases sign with letter | number
  · exact Or.inl (holds_of_is_alphabetic letter)
  · refine Or.inr ?_
    split at number
    · simp only [Char.isDigit, Bool.and_eq_true, decide_eq_true_eq, ge_iff_le,
        UInt32.le_iff_toNat_le] at number
      rw [Ranges.holds_iff]
      exact ⟨(0x30, 0x39), by decide, number.1, number.2⟩
    · exact number

/-- Letters and numbers are not blank. -/
theorem is_blank_of_is_alphanumeric {c : Char} (sign : isAlphanumeric c = true) :
    isBlank c = false := by
  have letters : alphabeticRanges.apart blankRanges = true := by decide +kernel
  have numbers : numberRanges.apart blankRanges = true := by decide +kernel
  rcases holds_of_is_alphanumeric sign with letter | number
  · exact Ranges.holds_eq_false_of_apart letters letter
  · exact Ranges.holds_eq_false_of_apart numbers number

end Text

namespace DatabaseName

variable {name : List Char}

/-- A name starts with a character that it may go on with. -/
theorem continues_name_of_starts_name {c : Char} (starts : startsName c = true) :
    continuesName c = true := by
  simp only [startsName, Bool.or_eq_true] at starts
  rcases starts with letter | underscore
  · simp [continuesName, Text.isAlphanumeric, letter]
  · simp [continuesName, underscore]

/-- All characters of a name are admitted. -/
theorem continues_name_of_mem (valid : isValid name = true) :
    ∀ c ∈ name, continuesName c = true := by
  cases name with
  | nil => exact fun _ impossible => absurd impossible List.not_mem_nil
  | cons first rest =>
    simp only [isValid, Bool.and_eq_true] at valid
    rw [List.forall_mem_cons]
    exact ⟨continues_name_of_starts_name valid.1.2, List.all_eq_true.mp valid.2⟩

/-- A character that is not admitted is in no name. -/
theorem not_mem_of_is_valid (valid : isValid name = true) {c : Char}
    (foreign : continuesName c = false) : c ∉ name := by
  intro member
  rw [continues_name_of_mem valid c member] at foreign
  cases foreign

/-- A name is not empty. -/
theorem ne_nil_of_is_valid (valid : isValid name = true) : name ≠ [] := by
  rintro rfl
  cases valid

/-- What a name holds is not blank. -/
theorem is_blank_of_mem (valid : isValid name = true) : ∀ c ∈ name, Text.isBlank c = false := by
  intro c member
  have admitted := continues_name_of_mem valid c member
  simp only [continuesName, Bool.or_eq_true, decide_eq_true_eq] at admitted
  rcases admitted with ((sign | rfl) | rfl) | rfl
  · exact Text.is_blank_of_is_alphanumeric sign
  all_goals decide

/-- A name has no blanks at its ends. -/
theorem trimmed_of_is_valid (valid : isValid name = true) : Text.Trimmed name :=
  Text.trimmed_of_forall (is_blank_of_mem valid)

/-- Names are accepted, and nothing else is. -/
theorem validate_eq_ok_iff {name : String} :
    validate name = .ok () ↔ isValid name.toList = true := by
  rw [← objection?_eq_none_iff, validate]
  cases objection? name.toList <;> simp

end DatabaseName

end SqlAccess
