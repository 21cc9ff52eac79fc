import SqlAccess.Json

/-!
# JSON numbers

An integer that fits 64 bits, signed or unsigned, stays an integer; minus zero and
everything written with a point, an exponent or too many digits is a float. A float
is read with the significand's leading digits that fit 64 bits, later digits counting
for their places only, and is scaled by powers of ten with a rounding at each step.
So a long decimal can come out one unit away from the nearest float.
-/

namespace SqlAccess.Json

/-- Digits taken into a significand as long as it fits 64 unsigned bits, and those left over. -/
def takeDigits (significand : Nat) : List Char → Nat × List Char
  | [] => (significand, [])
  | c :: rest =>
    match Decimal.digitValue? c with
    | none => (significand, c :: rest)
    | some d =>
      if significand * 10 + d < UInt64.size then takeDigits (significand * 10 + d) rest
      else (significand, c :: rest)

/-- Divide by 10^308 a number of times, at most until zero is left. -/
def lowerBy308 : Nat → Binary64 → Binary64
  | 0, x => x
  | count + 1, x =>
    if x.isZero then x else lowerBy308 count (x.divMagnitudes (Binary64.ofNat (Nat.pow 10 308)))

/-- A significand times a power of ten; none when it is beyond the largest number. -/
def scaleDecimal (significand : Nat) (exponent : Int) : Option Binary64 :=
  let x := Binary64.ofNat significand
  if 0 ≤ exponent then
    if exponent ≤ 308 then
      let product := x.mulMagnitudes (Binary64.ofNat (Nat.pow 10 exponent.toNat))
      if product.isFinite then some product else none
    else if x.isZero then some x
    else none
  else
    let places := exponent.natAbs
    let steps := (places - 1) / 308
    let lowered := lowerBy308 steps x
    if lowered.isZero then some lowered
    else some (lowered.divMagnitudes (Binary64.ofNat (Nat.pow 10 (places - 308 * steps))))

/-- Digits at the start of a text, and the rest. -/
def spanDigits (s : List Char) : List Char × List Char :=
  (s.takeWhile Decimal.isDigit, s.dropWhile Decimal.isDigit)

/-- The exponent behind its mark: sign and digits. None when there is no digit. -/
def readExponent (s : List Char) : Option (Bool × Nat × List Char) :=
  let (negative, body) := match s with
    | '+' :: rest => (false, rest)
    | '-' :: rest => (true, rest)
    | _ => (false, s)
  let (digits, rest) := spanDigits body
  (Decimal.natValue? digits).map fun n => (negative, n, rest)

/-- A float from its significand and the exponent gathered so far, and the exponent that may
follow. An exponent of more than 31 bits gives zero where it can and is refused where not. -/
def finishFloat (negative : Bool) (significand : Nat) (places : Int) (s : List Char) :
    Option (Json × List Char) :=
  let signed (x : Binary64) : Json := .float (x.withSign negative)
  let scaled (exponent : Int) (rest : List Char) :=
    (scaleDecimal significand exponent).map fun x => (signed x, rest)
  let exponentAt (body : List Char) :=
    match readExponent body with
    | none => none
    | some (down, n, rest) =>
      if Nat.pow 2 31 ≤ n then
        if significand != 0 && !down then none else some (signed Binary64.zero, rest)
      else
        let exponent := if down then max (places - n) Int32.minValue.toInt
          else min (places + n) Int32.maxValue.toInt
        scaled exponent rest
  match s with
  | 'e' :: body => exponentAt body
  | 'E' :: body => exponentAt body
  | _ => scaled places s

/-- The number at the start of a text, behind its minus sign. -/
def readMagnitude (negative : Bool) (s : List Char) : Option (Json × List Char) :=
  let (whole, rest) := spanDigits s
  let redundantZero := match whole with
    | '0' :: _ :: _ => true
    | _ => false
  if whole.isEmpty || redundantZero then none
  else
    let (significand, dropped) := takeDigits 0 whole
    match rest with
    | '.' :: body =>
      let (fraction, after) := spanDigits body
      if fraction.isEmpty then none
      else
        let (longer, left) := takeDigits significand fraction
        finishFloat negative longer ((dropped.length : Int) - (fraction.length - left.length)) after
    | 'e' :: _ => finishFloat negative significand dropped.length rest
    | 'E' :: _ => finishFloat negative significand dropped.length rest
    | _ =>
      if dropped.isEmpty && !negative then some (.int significand, rest)
      else if dropped.isEmpty && significand != 0 && significand ≤ Nat.pow 2 63 then
        some (.int (-(significand : Int)), rest)
      else finishFloat negative significand dropped.length rest

/-- The number at the start of a text. -/
def readNumber : List Char → Option (Json × List Char)
  | '-' :: rest => readMagnitude true rest
  | s => readMagnitude false s

end SqlAccess.Json
