import SqlAccess.Text.Percent
import SqlAccess.Proofs.Text.Utf8

/-!
# Percent encoding read back

An encoded text is made of characters that stand for themselves and of seventeen marks: the percent
sign and the digits behind it. Where no mark is itself encoded, encoding a second time changes
nothing; and a text is read back from its encoded form, whatever the class of characters that are
encoded, if it has no percent signs or the class holds them.
-/

namespace SqlAccess.Text.Percent

/-- The characters that encoding brings in. -/
def marks : List Char := "%0123456789ABCDEF".toList

variable {escaped : Char → Bool} {c : Char} {s : List Char}

/-- The form of a character. -/
theorem encode_cons (escaped : Char → Bool) (c : Char) (s : List Char) :
    encode escaped (c :: s) =
      (if escaped c then (Utf8.encodeChar c).flatMap encodeByte else [c]) ++ encode escaped s := rfl

/-- An encoded byte is written in marks. -/
theorem mem_marks_of_mem_encode_byte {b : UInt8} (member : c ∈ encodeByte b) : c ∈ marks := by
  rcases List.mem_cons.mp member with rfl | digit
  · decide
  · obtain ⟨d, small, rfl⟩ := Bytes.mem_hex_with digit
    have each : ∀ d < 16, Bytes.digit 'A' d ∈ marks := by decide
    exact each d small

/-- An encoded text holds characters of the text that are not encoded, and marks. -/
theorem mem_encode (member : c ∈ encode escaped s) :
    (c ∈ s ∧ escaped c = false) ∨ c ∈ marks := by
  obtain ⟨d, inside, written⟩ := List.mem_flatMap.mp member
  split at written
  · obtain ⟨b, _, form⟩ := List.mem_flatMap.mp written
    exact Or.inr (mem_marks_of_mem_encode_byte form)
  · rename_i plain
    obtain rfl := List.mem_singleton.mp written
    exact Or.inl ⟨inside, Bool.eq_false_iff.mpr plain⟩

/-- A character that is no mark and not in the text is not in its encoded form. -/
theorem not_mem_encode (foreign : c ∉ marks) (absent : c ∉ s) : c ∉ encode escaped s :=
  fun member => (mem_encode member).elim (fun inside => absent inside.1) foreign

/-- Something is written of every text but the empty one. -/
theorem encode_eq_nil_iff : encode escaped s = [] ↔ s = [] := by
  cases s with
  | nil => simp [encode]
  | cons c rest =>
    obtain ⟨b, others, bytes⟩ := List.exists_cons_of_ne_nil (Utf8.encode_char_ne_nil c)
    rw [encode_cons]
    split <;> simp [bytes, encodeByte]

/-- A text that holds nothing to be encoded is written as it is. -/
theorem encode_of_plain (plain : ∀ c ∈ s, escaped c = false) : encode escaped s = s := by
  induction s with
  | nil => rfl
  | cons c rest inductionHypothesis =>
    obtain ⟨first, others⟩ := List.forall_mem_cons.mp plain
    rw [encode_cons, first, inductionHypothesis others]
    rfl

/-- Where marks stand for themselves, nothing in an encoded text is to be encoded. -/
theorem plain_encode (stay : ∀ c ∈ marks, escaped c = false) :
    ∀ c ∈ encode escaped s, escaped c = false :=
  fun c member => (mem_encode member).elim And.right (stay c)

/-- Where marks stand for themselves, encoding a second time changes nothing. -/
theorem encode_encode (stay : ∀ c ∈ marks, escaped c = false) (s : List Char) :
    encode escaped (encode escaped s) = encode escaped s := encode_of_plain (plain_encode stay)

section Decoding

variable (rest : List UInt8)

/-- A byte that is no percent sign stands for itself. -/
theorem decode_cons {b : UInt8} (plain : b ≠ 0x25) : decode (b :: rest) = b :: decode rest := by
  match rest with
  | [] => simp [decode]
  | [_] => simp [decode]
  | _ :: _ :: _ => rw [decode, if_neg plain]

/-- So do bytes without a percent sign. -/
theorem decode_append {bytes : List UInt8} (plain : 0x25 ∉ bytes) :
    decode (bytes ++ rest) = bytes ++ decode rest := by
  induction bytes with
  | nil => rfl
  | cons b others inductionHypothesis =>
    rw [List.cons_append, decode_cons _ (Ne.symm (List.ne_of_not_mem_cons plain)),
      inductionHypothesis (List.not_mem_of_not_mem_cons plain), List.cons_append]

/-- A digit is read from its byte. -/
theorem digit_value?_digit {d : Nat} (small : d < 16) :
    ∃ b, Utf8.encodeChar (Bytes.digit 'A' d) = [b] ∧ digitValue? b = some d := by
  have each : ∀ d < 16, Utf8.encodeChar (Bytes.digit 'A' d) =
      [UInt8.ofNat (Bytes.digit 'A' d).toNat] ∧
      digitValue? (UInt8.ofNat (Bytes.digit 'A' d).toNat) = some d := by decide
  exact ⟨_, each d small⟩

/-- An encoded byte is read back. -/
theorem decode_encode_byte (b : UInt8) :
    decode (Utf8.encode (encodeByte b) ++ rest) = b :: decode rest := by
  obtain ⟨high, highByte, highValue⟩ :=
    digit_value?_digit (show b.toNat / 16 < 16 from Nat.div_lt_of_lt_mul b.toNat_lt)
  obtain ⟨low, lowByte, lowValue⟩ :=
    digit_value?_digit (Nat.mod_lt b.toNat (by decide : 0 < 16))
  have whole : UInt8.ofNat (16 * (b.toNat / 16) + b.toNat % 16) = b := by
    rw [Nat.div_add_mod, UInt8.ofNat_toNat]
  have bytes : Utf8.encode (encodeByte b) = [0x25, high, low] := by
    have percent : Utf8.encodeChar '%' = [0x25] := by decide
    simp [Utf8.encode, encodeByte, Bytes.hexUpper, Bytes.hexWith, highByte, lowByte, percent]
  rw [bytes, List.cons_append, List.cons_append, List.cons_append, List.nil_append, decode,
    if_pos rfl, highValue, lowValue]
  exact congrArg (· :: decode rest) whole

/-- So are encoded bytes. -/
theorem decode_encode_bytes (bytes : List UInt8) :
    decode (Utf8.encode (bytes.flatMap encodeByte) ++ rest) = bytes ++ decode rest := by
  induction bytes with
  | nil => rfl
  | cons b others inductionHypothesis =>
    rw [List.flatMap_cons, Utf8.encode, List.flatMap_append, List.append_assoc, ← Utf8.encode,
      ← Utf8.encode, decode_encode_byte, inductionHypothesis, List.cons_append]

end Decoding

/-- A character of several bytes has no byte below 0x80. -/
theorem high_of_mem_encode_char {b : UInt8} (long : 0x80 ≤ c.toNat)
    (member : b ∈ Utf8.encodeChar c) : 0x80 ≤ b.toNat := by
  have valid := Utf8.scalar c
  simp only [Utf8.encodeChar, if_neg (Nat.not_lt.mpr long)] at member
  split at member
  case isTrue => grind [Utf8.to_nat_of_nat]
  split at member
  case isTrue => grind [Utf8.to_nat_of_nat]
  case isFalse => grind [Utf8.to_nat_of_nat]

/-- Only a character of ASCII has its byte. -/
theorem not_mem_encode_char {mark : UInt8} (ascii : mark.toNat < 0x80)
    (other : c.toNat ≠ mark.toNat) : mark ∉ Utf8.encodeChar c := by
  intro member
  by_cases single : c.toNat < 0x80
  · simp only [Utf8.encodeChar, if_pos single, List.mem_singleton] at member
    have number := congrArg UInt8.toNat member
    rw [Utf8.to_nat_of_nat (by omega)] at number
    exact other number.symm
  · have high := high_of_mem_encode_char (Nat.not_lt.mp single) member
    omega

section Forms

variable (rest : List UInt8)

/-- A character other than the percent sign is read from its own bytes. -/
theorem decode_plain (other : c ≠ '%') :
    decode (Utf8.encode [c] ++ rest) = Utf8.encodeChar c ++ decode rest := by
  have single : Utf8.encode [c] = Utf8.encodeChar c := List.append_nil _
  have signless : (0x25 : UInt8) ∉ Utf8.encodeChar c :=
    not_mem_encode_char (by decide) fun same => other (Char.toNat_inj.mp same)
  rw [single, decode_append rest signless]

/-- A character is read from its encoded form. -/
theorem decode_encoded (sign : c = '%' → escaped c = true) :
    decode (Utf8.encode (encode escaped [c]) ++ rest) = Utf8.encodeChar c ++ decode rest := by
  rw [encode_cons, encode, List.flatMap_nil, List.append_nil]
  split
  · exact decode_encode_bytes rest _
  · rename_i plain
    exact decode_plain rest fun same => plain (sign same)

end Forms

/-- Where each character of a text is written so that it is read as some character, the text is read
as those characters. -/
theorem decode_flat_map {form : Char → List Char} {meant : Char → Char}
    (reads : ∀ c ∈ s, ∀ rest,
      decode (Utf8.encode (form c) ++ rest) = Utf8.encodeChar (meant c) ++ decode rest) :
    decode (Utf8.encode (s.flatMap form)) = Utf8.encode (s.map meant) := by
  induction s with
  | nil => rfl
  | cons c others inductionHypothesis =>
    obtain ⟨first, later⟩ := List.forall_mem_cons.mp reads
    rw [List.flatMap_cons, Utf8.encode, List.flatMap_append, ← Utf8.encode, ← Utf8.encode,
      first, inductionHypothesis later, List.map_cons, Utf8.encode_cons]

/-- A text is written character by character. -/
theorem encode_eq_flat_map (escaped : Char → Bool) (s : List Char) :
    encode escaped s = s.flatMap fun c => encode escaped [c] := by
  simp [encode]

/-- Where percent signs are encoded, a text is read back from the bytes of its encoded form. -/
theorem decode_encode (escaped : Char → Bool) (signs : '%' ∈ s → escaped '%' = true) :
    decode (Utf8.encode (encode escaped s)) = Utf8.encode s := by
  have read : decode (Utf8.encode (s.flatMap fun c => encode escaped [c])) =
      Utf8.encode (s.map id) :=
    decode_flat_map fun c member rest => decode_encoded rest fun same =>
      same ▸ signs (same ▸ member)
  rw [encode_eq_flat_map, read, List.map_id]

end SqlAccess.Text.Percent
