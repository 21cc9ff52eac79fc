import SqlAccess.Decimal.Digits
import SqlAccess.Decimal.Shortest

/-!
# Binary floating point, 64 bits

A number is its bit pattern: a sign, eleven bits of exponent and fifty-two of
fraction. Reading, rounding and arithmetic are exact integer computations followed
by one rounding to the nearest value, ties to the even one. How a number is written
is a record of decisions, `Style`, one value of it per kind of text.
-/

namespace SqlAccess

/-- A binary floating-point number, told apart by its bits. -/
structure Binary64 where
  bits : UInt64
deriving DecidableEq, Repr, Inhabited

namespace Binary64

/-- True when the sign bit is set; zero has both signs. -/
def isNegative (x : Binary64) : Bool := x.bits >>> 63 == 1

/-- The eleven exponent bits. -/
def exponentField (x : Binary64) : Nat := ((x.bits >>> 52) &&& 0x7FF).toNat

/-- The fifty-two fraction bits. -/
def fractionField (x : Binary64) : Nat := (x.bits &&& 0xFFFFFFFFFFFFF).toNat

/-- Neither an infinity nor NaN. -/
def isFinite (x : Binary64) : Bool := x.exponentField != 0x7FF

/-- Not a number. -/
def isNaN (x : Binary64) : Bool := x.exponentField == 0x7FF && x.fractionField != 0

/-- A finite number is a number. -/
theorem is_nan_of_is_finite {x : Binary64} (finite : x.isFinite = true) : x.isNaN = false := by
  simp only [isFinite, bne_iff_ne, ne_eq] at finite
  simp [isNaN, finite]

/-- Zero of either sign. -/
def isZero (x : Binary64) : Bool := x.exponentField == 0 && x.fractionField == 0

/-- The magnitude of a finite number as `m · 2^q`. -/
def magnitude (x : Binary64) : Decimal.Binary :=
  if x.exponentField == 0 then ⟨x.fractionField, -1074, false⟩
  else ⟨Nat.pow 2 52 + x.fractionField, (x.exponentField : Int) - 1075,
    x.fractionField == 0 && x.exponentField > 1⟩

/-- The number with the given sign and the magnitude of this one. -/
def withSign (negative : Bool) (x : Binary64) : Binary64 :=
  ⟨(x.bits &&& 0x7FFFFFFFFFFFFFFF) ||| (if negative then 0x8000000000000000 else 0)⟩

/-- Positive zero. -/
def zero : Binary64 := ⟨0⟩

/-- Positive infinity. -/
def infinity : Binary64 := ⟨0x7FF0000000000000⟩

/-- The one NaN that computations here give. -/
def nan : Binary64 := ⟨0x7FF8000000000000⟩

/-- The quotient rounded to the nearest natural, ties to the even one. -/
def roundQuotient (numerator denominator : Nat) : Nat :=
  let floor := numerator / denominator
  match compare (2 * (numerator % denominator)) denominator with
  | .lt => floor
  | .gt => floor + 1
  | .eq => if floor % 2 == 0 then floor else floor + 1

/-- The number nearest to a non-negative fraction; beyond the largest finite one, infinity.
The unit `2^q` is chosen so that the rounded quotient has 53 bits, or fewer at the bottom of
the range; a carry out of the fraction adds one to the exponent field by itself. -/
def ofRatio (numerator denominator : Nat) : Binary64 :=
  if numerator == 0 then zero
  else
    let scale (q : Int) : Nat × Nat :=
      (numerator * Nat.pow 2 (-q).toNat, denominator * Nat.pow 2 q.toNat)
    let lowest : Int := max ((numerator.log2 : Int) - denominator.log2 - 53) (-1074)
    let q := if (scale lowest).1 / (scale lowest).2 < Nat.pow 2 53 then lowest else lowest + 1
    let m := roundQuotient (scale q).1 (scale q).2
    if m < Nat.pow 2 52 then ⟨m.toUInt64⟩
    else
      let field := (q + 1075).toNat * Nat.pow 2 52 + (m - Nat.pow 2 52)
      if field < 0x7FF0000000000000 then ⟨field.toUInt64⟩ else infinity

/-- The number nearest to a natural. -/
def ofNat (n : Nat) : Binary64 := ofRatio n 1

/-- The number nearest to an integer. -/
def ofInt (i : Int) : Binary64 := withSign (i < 0) (ofNat i.natAbs)

/-- The product of two finite non-negative numbers, rounded once. -/
def mulMagnitudes (x y : Binary64) : Binary64 :=
  let a := x.magnitude
  let b := y.magnitude
  let q := a.q + b.q
  ofRatio (a.m * b.m * Nat.pow 2 q.toNat) (Nat.pow 2 (-q).toNat)

/-- The quotient of two finite non-negative numbers, rounded once; the divisor is not zero. -/
def divMagnitudes (x y : Binary64) : Binary64 :=
  let a := x.magnitude
  let b := y.magnitude
  let q := a.q - b.q
  ofRatio (a.m * Nat.pow 2 q.toNat) (b.m * Nat.pow 2 (-q).toNat)

/-- A finite number cut to an integer, toward zero. -/
def truncate (x : Binary64) : Int :=
  let a := x.magnitude
  let n : Nat := a.m * Nat.pow 2 a.q.toNat / Nat.pow 2 (-a.q).toNat
  if x.isNegative then -(n : Int) else n

/-- Finite and without a fractional part. -/
def isIntegral (x : Binary64) : Bool :=
  let a := x.magnitude
  x.isFinite && a.m * Nat.pow 2 a.q.toNat % Nat.pow 2 (-a.q).toNat == 0

/-- The nearest integer of 64 signed bits, toward zero; beyond them the end of their range, and
zero for NaN. -/
def toInt64Saturating (x : Binary64) : Int :=
  if x.isNaN then 0
  else if !x.isFinite then (if x.isNegative then Int64.minValue.toInt else Int64.maxValue.toInt)
  else max Int64.minValue.toInt (min Int64.maxValue.toInt x.truncate)

/-- The decisions about a written number. -/
structure Style where
  /-- Exponents of the leading digit from here on are written positionally … -/
  plainFrom : Int
  /-- … up to this one, excluded. -/
  plainBelow : Int
  /-- An integral positional number ends in `.0`. -/
  pointZero : Bool
  /-- A positive exponent has a plus sign. -/
  signedExponent : Bool
  /-- Which of two equally near shortest decimals is written. -/
  tie : Decimal.Tie
deriving Repr

/-- The layout of `digits · 10^scale`, a number without zeros at its end. -/
def Style.layout (style : Style) (d : Decimal.Scaled) : List Char :=
  let digits := Decimal.ofNat d.digits
  let exponent : Int := d.scale + digits.length - 1
  if style.plainFrom ≤ exponent ∧ exponent < style.plainBelow then
    if 0 ≤ d.scale then
      digits ++ List.replicate d.scale.toNat '0' ++ (if style.pointZero then ['.', '0'] else [])
    else if 0 ≤ exponent then
      digits.take (exponent.toNat + 1) ++ '.' :: digits.drop (exponent.toNat + 1)
    else
      '0' :: '.' :: (List.replicate (-exponent - 1).toNat '0' ++ digits)
  else
    let mantissa := match digits with
      | [] => []
      | [d] => [d]
      | d :: rest => d :: '.' :: rest
    let sign := if exponent < 0 then ['-'] else if style.signedExponent then ['+'] else []
    mantissa ++ 'e' :: (sign ++ Decimal.ofNat exponent.natAbs)

/-- The text of a number: its sign, and the fewest digits that identify it. Zero keeps its sign. -/
def Style.render (style : Style) (x : Binary64) : List Char :=
  if x.isNaN then ['N', 'a', 'N']
  else
    let sign := if x.isNegative then ['-'] else []
    if !x.isFinite then sign ++ ['i', 'n', 'f']
    else if x.isZero then sign ++ (if style.pointZero then ['0', '.', '0'] else ['0'])
    else sign ++ style.layout (x.magnitude.shortest style.tie)

/-- Numbers in generated statements are always positional, and integral ones have no point. -/
def statementStyle : Style where
  plainFrom := -400
  plainBelow := 400
  pointZero := false
  signedExponent := false
  tie := .upward

/-- Numbers in diagnostics keep a point, and are positional from 10^-4 up to 10^16. -/
def diagnosticStyle : Style where
  plainFrom := -4
  plainBelow := 16
  pointZero := true
  signedExponent := false
  tie := .upward

/-- A number as it stands in a statement. -/
def statementText (x : Binary64) : String := String.ofList (statementStyle.render x)

/-- A number as it stands in a diagnostic. -/
def diagnosticText (x : Binary64) : String := String.ofList (diagnosticStyle.render x)

/-- A number of 32 bits, widened; every such number is one of 64 bits. -/
def ofBits32 (bits : UInt32) : Binary64 :=
  let negative := bits >>> 31 == 1
  let field := ((bits >>> 23) &&& 0xFF).toNat
  let fraction := (bits &&& 0x7FFFFF).toNat
  withSign negative <|
    if field == 0xFF then (if fraction == 0 then infinity else nan)
    else if field == 0 then ofRatio fraction (Nat.pow 2 149)
    else
      let q : Int := (field : Int) - 150
      ofRatio ((Nat.pow 2 23 + fraction) * Nat.pow 2 q.toNat) (Nat.pow 2 (-q).toNat)

end Binary64

end SqlAccess
