import SqlAccess.Bytes.Hex
import SqlAccess.Text.Utf8

/-!
# Percent encoding

A character that may not stand for itself is written as its UTF-8 bytes, each a
percent sign and two hexadecimal digits. Decoding works on bytes; a percent sign
without two digits behind it stands for itself.
-/

namespace SqlAccess.Text.Percent

/-- A byte as a percent sign and two digits. -/
def encodeByte (b : UInt8) : List Char := '%' :: Bytes.hexUpper [b]

/-- A text in which the characters of a class are encoded. -/
def encode (escaped : Char → Bool) (s : List Char) : List Char :=
  s.flatMap fun c => if escaped c then (Utf8.encodeChar c).flatMap encodeByte else [c]

/-- The number of a hexadecimal digit given as a byte. -/
def digitValue? (b : UInt8) : Option Nat := Bytes.digitValue? (Char.ofNat b.toNat)

/-- Bytes in which every encoded byte is replaced by itself. -/
def decode : List UInt8 → List UInt8
  | [] => []
  | b :: high :: low :: rest =>
    if b = 0x25 then
      match digitValue? high, digitValue? low with
      | some h, some l => UInt8.ofNat (16 * h + l) :: decode rest
      | _, _ => b :: decode (high :: low :: rest)
    else b :: decode (high :: low :: rest)
  | b :: rest => b :: decode rest

end SqlAccess.Text.Percent
