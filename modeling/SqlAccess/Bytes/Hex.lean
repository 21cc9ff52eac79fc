/-!
# Hexadecimal

Two digits for every byte, the high half first. Reading takes digits of either case
and an even number of them.
-/

namespace SqlAccess.Bytes

/-- The digit of a number below sixteen; letters start at the given one. -/
def digit (letters : Char) (d : Nat) : Char :=
  if d < 10 then Char.ofNat (48 + d) else Char.ofNat (letters.toNat + d - 10)

/-- Two digits for every byte. -/
def hexWith (letters : Char) : List UInt8 → List Char
  | [] => []
  | b :: rest =>
    digit letters (b.toNat / 16) :: digit letters (b.toNat % 16) :: hexWith letters rest

/-- Lower-case digits. -/
def hexLower (bytes : List UInt8) : List Char := hexWith 'a' bytes

/-- Upper-case digits. -/
def hexUpper (bytes : List UInt8) : List Char := hexWith 'A' bytes

/-- The number of a digit of either case. -/
def digitValue? (c : Char) : Option Nat :=
  let n := c.toNat
  if 48 ≤ n ∧ n ≤ 57 then some (n - 48)
  else if 97 ≤ n ∧ n ≤ 102 then some (n - 87)
  else if 65 ≤ n ∧ n ≤ 70 then some (n - 55)
  else none

/-- The bytes of pairs of digits. -/
def ofHex? : List Char → Option (List UInt8)
  | [] => some []
  | [_] => none
  | high :: low :: rest => do
    let h ← digitValue? high
    let l ← digitValue? low
    let bytes ← ofHex? rest
    return UInt8.ofNat (16 * h + l) :: bytes

/-- The digits that a reader gives their numbers, by the letter that ten is written with. -/
def Legible (letters : Char) : Prop := ∀ d < 16, digitValue? (digit letters d) = some d

/-- Upper-case digits are read. -/
theorem legible_upper : Legible 'A' := by unfold Legible; decide

/-- Lower-case digits are read. -/
theorem legible_lower : Legible 'a' := by unfold Legible; decide

/-- Bytes that are written in digits read back. -/
theorem of_hex?_hex_with {letters : Char} (legible : Legible letters) (bytes : List UInt8) :
    ofHex? (hexWith letters bytes) = some bytes := by
  induction bytes with
  | nil => rfl
  | cons b rest inductionHypothesis =>
    have high : b.toNat / 16 < 16 := Nat.div_lt_of_lt_mul b.toNat_lt
    have low : b.toNat % 16 < 16 := Nat.mod_lt _ (by decide)
    have whole : UInt8.ofNat (16 * (b.toNat / 16) + b.toNat % 16) = b := by
      rw [Nat.div_add_mod, UInt8.ofNat_toNat]
    simp only [hexWith, ofHex?, legible _ high, legible _ low, inductionHypothesis, whole,
      Option.bind_eq_bind, Option.bind_some, Option.pure_def]

/-- What is written of bytes consists of digits. -/
theorem mem_hex_with {letters c : Char} {bytes : List UInt8}
    (member : c ∈ hexWith letters bytes) :
    ∃ d < 16, c = digit letters d := by
  induction bytes with
  | nil => simp [hexWith] at member
  | cons b rest inductionHypothesis =>
    rw [hexWith, List.mem_cons, List.mem_cons] at member
    rcases member with rfl | rfl | later
    · exact ⟨b.toNat / 16, Nat.div_lt_of_lt_mul b.toNat_lt, rfl⟩
    · exact ⟨b.toNat % 16, Nat.mod_lt _ (by decide), rfl⟩
    · exact inductionHypothesis later

/-- Two digits are written for every byte. -/
theorem length_hex_with (letters : Char) (bytes : List UInt8) :
    (hexWith letters bytes).length = 2 * bytes.length := by
  induction bytes with
  | nil => rfl
  | cons b rest inductionHypothesis =>
    simp only [hexWith, List.length_cons, inductionHypothesis]
    omega

end SqlAccess.Bytes
