import SqlAccess.Text.Utf8

/-!
# UTF-8 read back

Reading goes from byte to byte and remembers what a character that is begun still lacks. The bytes
of a character lead it through the states of that character and out of them again, whatever bytes
follow. So a text is read back from its bytes.
-/

namespace SqlAccess.Text.Utf8

variable {c : Char} {b : UInt8} {value owed : Nat} {least greatest : UInt8} (rest : List UInt8)

/-- A character is a scalar value: below the surrogates or above them, and in the code space. -/
theorem scalar (c : Char) : c.toNat < 0xD800 ∨ (0xDFFF < c.toNat ∧ c.toNat < 0x110000) :=
  c.valid

/-- The number of a byte that is made from a small number. -/
theorem to_nat_of_nat {n : Nat} (small : n < 256) : (UInt8.ofNat n).toNat = n :=
  Nat.mod_eq_of_lt small

/-- A byte in its bounds that brings six more bits. -/
theorem step_continuing {n : Nat} (low : least.toNat ≤ 0x80 + n % 64)
    (high : 0x80 + n % 64 ≤ greatest.toNat) :
    step (some ⟨value, owed, least, greatest⟩) (UInt8.ofNat (0x80 + n % 64)) =
      if owed ≤ 1 then ([some (Char.ofNat (value * 64 + n % 64))], none)
      else ([], some ⟨value * 64 + n % 64, owed - 1, 0x80, 0xBF⟩) := by
  have number := to_nat_of_nat (n := 0x80 + n % 64) (by omega)
  have bits : (0x80 + n % 64) % 64 = n % 64 := by omega
  simp only [step, UInt8.le_iff_toNat_le, number, low, high, bits, decide_true, Bool.and_self,
    if_true]

/-- A character that lacks one byte is completed. -/
theorem pieces_from_last (n : Nat) :
    piecesFrom (some ⟨value, 1, 0x80, 0xBF⟩) (UInt8.ofNat (0x80 + n % 64) :: rest) =
      some (Char.ofNat (value * 64 + n % 64)) :: piecesFrom none rest := by
  have byte : step (some ⟨value, 1, 0x80, 0xBF⟩) (UInt8.ofNat (0x80 + n % 64)) =
      ([some (Char.ofNat (value * 64 + n % 64))], none) :=
    (step_continuing (by simp) (by simp; omega)).trans (if_pos (Nat.le_refl 1))
  simp only [piecesFrom, byte, List.singleton_append]

/-- A character that lacks more is brought on. -/
theorem pieces_from_more {n : Nat} (low : least.toNat ≤ 0x80 + n % 64)
    (high : 0x80 + n % 64 ≤ greatest.toNat) (more : 1 < owed) :
    piecesFrom (some ⟨value, owed, least, greatest⟩) (UInt8.ofNat (0x80 + n % 64) :: rest) =
      piecesFrom (some ⟨value * 64 + n % 64, owed - 1, 0x80, 0xBF⟩) rest := by
  simp only [piecesFrom, step_continuing low high, if_neg (Nat.not_le.mpr more), List.nil_append]

/-- A byte below 0x80 is a character. -/
theorem pieces_from_single {n : Nat} (small : n < 0x80) :
    piecesFrom none (UInt8.ofNat n :: rest) = some (Char.ofNat n) :: piecesFrom none rest := by
  have number := to_nat_of_nat (n := n) (by omega)
  have below : UInt8.ofNat n < 0x80 := by
    rw [UInt8.lt_iff_toNat_lt, number]
    exact small
  simp [piecesFrom, step, start, below, number]

/-- The first of two bytes. -/
theorem start_double (low : 0xC2 ≤ b.toNat) (high : b.toNat < 0xE0) :
    start b = ([], some ⟨b.toNat % 32, 1, 0x80, 0xBF⟩) := by
  simp only [start, UInt8.lt_iff_toNat_lt, UInt8.reduceToNat]
  rw [if_neg (by omega), if_neg (by omega), if_pos high]

/-- The first of three bytes, and the bounds of the second: no character is written longer than it
has to be, and none is a surrogate. -/
theorem start_triple (low : 0xE0 ≤ b.toNat) (high : b.toNat < 0xF0) :
    ∃ least greatest, start b = ([], some ⟨b.toNat % 16, 2, least, greatest⟩) ∧
      least.toNat = (if b.toNat = 0xE0 then 0xA0 else 0x80) ∧
      greatest.toNat = (if b.toNat = 0xED then 0x9F else 0xBF) := by
  simp only [start, UInt8.lt_iff_toNat_lt, UInt8.reduceToNat, beq_iff_eq, ← UInt8.toNat_inj]
  rw [if_neg (by omega), if_neg (by omega), if_neg (by omega)]
  by_cases first : b.toNat = 0xE0
  · exact ⟨0xA0, 0xBF, by simp [first], by simp [first], by simp [first]⟩
  by_cases surrogate : b.toNat = 0xED
  · exact ⟨0x80, 0x9F, by simp [surrogate], by simp [surrogate], by simp [surrogate]⟩
  · exact ⟨0x80, 0xBF, by simp [first, surrogate, high], by simp [first], by simp [surrogate]⟩

/-- The first of four bytes, and the bounds of the second: no character is written longer than it
has to be, and none is outside the code space. -/
theorem start_quadruple (low : 0xF0 ≤ b.toNat) (high : b.toNat < 0xF5) :
    ∃ least greatest, start b = ([], some ⟨b.toNat % 8, 3, least, greatest⟩) ∧
      least.toNat = (if b.toNat = 0xF0 then 0x90 else 0x80) ∧
      greatest.toNat = (if b.toNat = 0xF4 then 0x8F else 0xBF) := by
  simp only [start, UInt8.lt_iff_toNat_lt, UInt8.reduceToNat, beq_iff_eq, ← UInt8.toNat_inj]
  rw [if_neg (by omega), if_neg (by omega), if_neg (by omega), if_neg (by omega), if_neg (by omega),
    if_neg (by omega)]
  by_cases first : b.toNat = 0xF0
  · exact ⟨0x90, 0xBF, by simp [first], by simp [first], by simp [first]⟩
  by_cases final : b.toNat = 0xF4
  · exact ⟨0x80, 0x8F, by simp [final], by simp [final], by simp [final]⟩
  · exact ⟨0x80, 0xBF, by simp [first, show b.toNat < 0xF4 by omega], by simp [first],
      by simp [final]⟩

/-- A byte that begins a character. -/
theorem pieces_from_start {pending : Pending} (begins : start b = ([], some pending)) :
    piecesFrom none (b :: rest) = piecesFrom (some pending) rest := by
  simp [piecesFrom, step, begins]

/-- The bytes of a character are read as it. -/
theorem pieces_from_encode_char (c : Char) :
    piecesFrom none (encodeChar c ++ rest) = some c :: piecesFrom none rest := by
  have valid := scalar c
  simp only [encodeChar]
  split
  case isTrue single =>
    rw [List.singleton_append, pieces_from_single rest single, Char.ofNat_toNat]
  split
  case isTrue double =>
    have number := to_nat_of_nat (n := 0xC0 + c.toNat / 64) (by omega)
    have whole : (0xC0 + c.toNat / 64) % 32 * 64 + c.toNat % 64 = c.toNat := by omega
    rw [List.cons_append, List.singleton_append,
      pieces_from_start _ (start_double (by omega) (by omega)), pieces_from_last, number, whole,
      Char.ofNat_toNat]
  split
  case isTrue triple =>
    have number := to_nat_of_nat (n := 0xE0 + c.toNat / 4096) (by omega)
    have whole : ((0xE0 + c.toNat / 4096) % 16 * 64 + c.toNat / 64 % 64) * 64 + c.toNat % 64 =
      c.toNat := by omega
    obtain ⟨least, greatest, begins, low, high⟩ :=
      start_triple (b := UInt8.ofNat (0xE0 + c.toNat / 4096)) (by omega) (by omega)
    rw [List.cons_append, List.cons_append, List.singleton_append, pieces_from_start _ begins,
      pieces_from_more _ (by split at low <;> omega) (by split at high <;> omega) (by decide),
      pieces_from_last, number, whole, Char.ofNat_toNat]
  case isFalse quadruple =>
    have number := to_nat_of_nat (n := 0xF0 + c.toNat / 262144) (by omega)
    have whole : (((0xF0 + c.toNat / 262144) % 8 * 64 + c.toNat / 4096 % 64) * 64 +
      c.toNat / 64 % 64) * 64 + c.toNat % 64 = c.toNat := by omega
    obtain ⟨least, greatest, begins, low, high⟩ :=
      start_quadruple (b := UInt8.ofNat (0xF0 + c.toNat / 262144)) (by omega) (by omega)
    rw [List.cons_append, List.cons_append, List.cons_append, List.singleton_append,
      pieces_from_start _ begins,
      pieces_from_more _ (by split at low <;> omega) (by split at high <;> omega) (by decide),
      pieces_from_more _ (by simp) (by simp; omega) (by decide), pieces_from_last, number, whole,
      Char.ofNat_toNat]

/-- Every character has a byte. -/
theorem encode_char_ne_nil (c : Char) : encodeChar c ≠ [] := by
  unfold encodeChar
  grind

/-- The bytes of a text are those of its characters. -/
theorem encode_cons (c : Char) (s : List Char) : encode (c :: s) = encodeChar c ++ encode s := rfl

/-- A text is read back from its bytes without a fault. -/
theorem pieces_encode (s : List Char) : pieces (encode s) = s.map some := by
  induction s with
  | nil => rfl
  | cons c others inductionHypothesis =>
    rw [pieces] at inductionHypothesis
    rw [pieces, encode_cons, pieces_from_encode_char, inductionHypothesis, List.map_cons]

/-- A lenient reader reads back what was written. -/
theorem decode_lenient_encode (s : List Char) : decodeLenient (encode s) = s := by
  rw [decodeLenient, pieces_encode, List.map_map]
  exact List.map_id s

end SqlAccess.Text.Utf8
