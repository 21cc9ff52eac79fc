/-!
# Numbers in network order

The value of bytes of which the first one weighs most, without a sign and in two's
complement. The width of a number is the count of its bytes.
-/

namespace SqlAccess.Bytes

/-- The value of bytes read after a number that is already there. -/
def bigEndianFrom (start : Nat) : List UInt8 → Nat
  | [] => start
  | b :: rest => bigEndianFrom (256 * start + b.toNat) rest

/-- The value without a sign. -/
def bigEndian (bytes : List UInt8) : Nat := bigEndianFrom 0 bytes

/-- The value in two's complement. -/
def signedBigEndian (bytes : List UInt8) : Int :=
  let value := bigEndian bytes
  let weight := Nat.pow 256 bytes.length
  if 2 * value < weight then value else (value : Int) - weight

end SqlAccess.Bytes
