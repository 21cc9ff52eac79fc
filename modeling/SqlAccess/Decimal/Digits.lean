/-!
# Decimal digits

Naturals and integers as decimal text, and back. The written form has no sign for
naturals, a minus for negative integers and no redundant zero; the readers accept
digits only, with an optional sign where they say so.
-/

namespace SqlAccess.Decimal

/-- The number of an ASCII digit. -/
def digitValue? (c : Char) : Option Nat :=
  if 48 ≤ c.toNat ∧ c.toNat ≤ 57 then some (c.toNat - 48) else none

/-- True for the ten ASCII digits. -/
def isDigit (c : Char) : Bool := (digitValue? c).isSome

/-- The digits of a natural, most significant first. -/
def ofNat (n : Nat) : List Char := Nat.toDigits 10 n

/-- The digits of an integer behind its minus sign. -/
def ofInt (i : Int) : List Char :=
  if i < 0 then '-' :: ofNat i.natAbs else ofNat i.natAbs

/-- The value of digits read after a number that is already there. -/
def valueFrom (start : Nat) : List Char → Option Nat
  | [] => some start
  | c :: rest => (digitValue? c).bind fun d => valueFrom (10 * start + d) rest

/-- The value of a non-empty run of digits. -/
def natValue? : List Char → Option Nat
  | [] => none
  | c :: rest => valueFrom 0 (c :: rest)

/-- The value of digits behind an optional plus or minus. -/
def intValue? : List Char → Option Int
  | '-' :: rest => (natValue? rest).map fun n => -(n : Int)
  | '+' :: rest => (natValue? rest).map Int.ofNat
  | s => (natValue? s).map Int.ofNat

/-- True when an integer fits a signed word of the given width. -/
def fitsSigned (width : Nat) (i : Int) : Bool :=
  let bound : Int := Nat.pow 2 (width - 1)
  i < bound && -bound ≤ i

/-- An optional sign and digits whose value fits 64 signed bits. -/
def int64Value? (s : List Char) : Option Int :=
  (intValue? s).filter (fitsSigned 64)

/-- Digits, zeros put in front up to a width. -/
def padded (width n : Nat) : List Char :=
  let digits := ofNat n
  List.replicate (width - digits.length) '0' ++ digits

/-- A natural as a string. -/
def natText (n : Nat) : String := String.ofList (ofNat n)

/-- An integer as a string. -/
def intText (i : Int) : String := String.ofList (ofInt i)

end SqlAccess.Decimal
