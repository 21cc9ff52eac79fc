import SqlAccess.Text.Lowercase
import SqlAccess.Text.Pieces

/-!
# The case of ASCII letters

Lower case changes letters into letters and nothing else, so a character that is no letter can be
found again in the text before its case was changed. That a text begins in some case with a word
is that the word is the beginning of its lower case.
-/

namespace SqlAccess.Text

variable {s start : List Char}

section Letters

variable {c : Char}

/-- The capital letters are those from 65 to 90. -/
theorem is_upper_iff : c.isUpper = true ↔ 65 ≤ c.toNat ∧ c.toNat ≤ 90 := by
  change decide ('A'.val ≤ c.val ∧ c.val ≤ 'Z'.val) = true ↔ _
  simp only [decide_eq_true_eq, UInt32.le_iff_toNat_le]
  exact Iff.rfl

/-- The lower-case letters are those from 97 to 122. -/
theorem is_lower_iff : c.isLower = true ↔ 97 ≤ c.toNat ∧ c.toNat ≤ 122 := by
  change (decide ('a'.val ≤ c.val) && decide (c.val ≤ 'z'.val)) = true ↔ _
  simp only [Bool.and_eq_true, decide_eq_true_eq, UInt32.le_iff_toNat_le]
  exact Iff.rfl

/-- There are no other letters. -/
theorem is_alpha_iff : c.isAlpha = true ↔ c.isUpper = true ∨ c.isLower = true := by
  change (c.isUpper || c.isLower) = true ↔ _
  rw [Bool.or_eq_true]

/-- What is no capital letter is in lower case. -/
theorem to_lower_of_is_upper_eq_false (small : c.isUpper = false) : c.toLower = c := by
  have outside : ¬(c.val ≥ 'A'.val ∧ c.val ≤ 'Z'.val) := fun bounds =>
    Bool.eq_false_iff.mp small (is_upper_iff.mpr
      ⟨UInt32.le_iff_toNat_le.mp bounds.1, UInt32.le_iff_toNat_le.mp bounds.2⟩)
  exact dif_neg outside

/-- A capital letter stands 32 places in front of its lower case. -/
theorem to_nat_to_lower (upper : c.isUpper = true) : c.toLower.toNat = c.toNat + 32 := by
  obtain ⟨least, greatest⟩ := is_upper_iff.mp upper
  have bounds : c.val ≥ 'A'.val ∧ c.val ≤ 'Z'.val :=
    ⟨UInt32.le_iff_toNat_le.mpr least, UInt32.le_iff_toNat_le.mpr greatest⟩
  have moved : c.toLower.val = c.val + ('a'.val - 'A'.val) := congrArg Char.val (dif_pos bounds)
  have sum : c.toLower.val.toNat = (c.val.toNat + 32) % 2 ^ 32 := by
    rw [moved, UInt32.toNat_add]
    rfl
  exact sum.trans (Nat.mod_eq_of_lt (show c.toNat + 32 < 2 ^ 32 by omega))

/-- What is no letter in lower case was the same before. -/
theorem eq_of_to_lower_eq {d : Char} (lower : c.toLower = d) (mark : d.isAlpha = false) :
    c = d := by
  cases upper : c.isUpper with
  | false => rw [← lower, to_lower_of_is_upper_eq_false upper]
  | true =>
    obtain ⟨least, greatest⟩ := is_upper_iff.mp upper
    have moved : d.toNat = c.toNat + 32 := by rw [← lower, to_nat_to_lower upper]
    have letter : d.isLower = true := is_lower_iff.mpr ⟨by omega, by omega⟩
    rw [is_alpha_iff.mpr (Or.inr letter)] at mark
    cases mark

end Letters

/-- ASCII characters that are no capitals. -/
abbrev IsSmall (c : Char) : Prop := c.toNat < 128 ∧ c.isUpper = false

/-- A text of such characters is in lower case. -/
theorem lower_from_of_small (small : ∀ c ∈ s, IsSmall c) (before : List Char) :
    lowerFrom before s = s := by
  induction s generalizing before with
  | nil => rfl
  | cons c rest inductionHypothesis =>
    obtain ⟨⟨ascii, noCapital⟩, others⟩ := List.forall_mem_cons.mp small
    have undotted : c ≠ '\u0130' := by
      rintro rfl
      exact absurd ascii (by decide)
    have noSigma : c ≠ '\u03a3' := by
      rintro rfl
      exact absurd ascii (by decide)
    have same : lowerChar c = c := by
      rw [lower_char_of_lt c ascii, to_lower_of_is_upper_eq_false noCapital]
    simp only [lowerFrom, if_neg undotted, if_neg noSigma, same, List.singleton_append,
      inductionHypothesis others]

/-- A mark in lower-case text was there before. -/
theorem mem_of_mem_lower_ascii {c : Char} (member : c ∈ lowerAscii s) (mark : c.isAlpha = false) :
    c ∈ s := by
  obtain ⟨original, inside, lower⟩ := List.mem_map.mp member
  rw [← eq_of_to_lower_eq lower mark]
  exact inside

/-- Lower case takes texts one by one. -/
theorem lower_ascii_append (s rest : List Char) :
    lowerAscii (s ++ rest) = lowerAscii s ++ lowerAscii rest := List.map_append

/-- Some text has a start exactly when it can be dropped. -/
theorem is_some_drop_start?_iff : (dropStart? start s).isSome = true ↔ start <+: s := by
  rw [Option.isSome_iff_exists]
  exact ⟨fun ⟨rest, found⟩ => ⟨rest, (drop_start?_eq_some_iff.mp found).symm⟩,
    fun ⟨rest, whole⟩ => ⟨rest, drop_start?_eq_some_iff.mpr whole.symm⟩⟩

/-- A text holds a part exactly when that is one of its stretches. -/
theorem contains_iff {part s : List Char} : contains part s = true ↔ part <:+: s := by
  induction s with
  | nil => cases part <;> simp [contains, cutAtPart]
  | cons c rest inductionHypothesis =>
    rw [List.infix_cons_iff, ← is_some_drop_start?_iff, ← inductionHypothesis]
    unfold contains
    rw [cutAtPart]
    cases dropStart? part (c :: rest) <;> simp

/-- A text begins with a word in some case exactly when its lower case begins with the word in
lower case. -/
theorem same_ignoring_ascii_case_take_iff :
    sameIgnoringAsciiCase (s.take start.length) start = true ↔
      lowerAscii start <+: lowerAscii s := by
  have length : (lowerAscii start).length = start.length := List.length_map _
  rw [sameIgnoringAsciiCase, beq_iff_eq, List.prefix_iff_eq_take, length, eq_comm]
  simp only [lowerAscii, List.map_take]

/-- A prefix that is longer than the first of two texts goes on into the second. -/
theorem exists_of_prefix_append {front : List Char} (begins : start <+: front ++ s)
    (short : front.length < start.length) :
    ∃ c rest, start = front ++ c :: rest ∧ c :: rest <+: s := by
  have inside : front <+: start :=
    List.prefix_of_prefix_length_le (List.prefix_append front s) begins (Nat.le_of_lt short)
  obtain ⟨more, rfl⟩ := inside
  cases more with
  | nil => simp at short
  | cons c rest => exact ⟨c, rest, rfl, (List.prefix_append_right_inj front).mp begins⟩

end SqlAccess.Text
