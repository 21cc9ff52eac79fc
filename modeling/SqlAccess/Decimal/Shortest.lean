/-!
# The fewest digits that identify a binary fraction

A finite value `m · 2^q` is the nearest representable one for every real in an
interval around it, ends included when `m` is even. Of the decimals in this
interval the shortest is chosen, and of the shortest the one nearest to the value;
where two are equally near, the caller says which. All arithmetic is exact.
-/

namespace SqlAccess.Decimal

/-- Where two decimals of equal length are equally near. -/
inductive Tie where
  /-- The one whose last digit is even. -/
  | toEven
  /-- The larger one. -/
  | upward
deriving DecidableEq, Repr

/-- The value `m · 2^q`. The gap to the next smaller value is half the gap to the next larger
one exactly at the lower end of a binade. -/
structure Binary where
  m : Nat
  q : Int
  narrowBelow : Bool
deriving DecidableEq, Repr

/-- The value `digits · 10^scale`. -/
structure Scaled where
  digits : Nat
  scale : Int
deriving DecidableEq, Repr

/-- Compare `a · 10^i` with `n · 2^j`. -/
def compareScaled (a : Nat) (i : Int) (n : Nat) (j : Int) : Ordering :=
  compare (a * Nat.pow 10 i.toNat * Nat.pow 2 (-j).toNat)
    (n * Nat.pow 2 j.toNat * Nat.pow 10 (-i).toNat)

/-- True when a decimal lies in the interval of reals whose nearest representable value is `x`. -/
def Binary.identifiedBy (x : Binary) (d : Scaled) : Bool :=
  let low := if x.narrowBelow then 4 * x.m - 1 else 4 * x.m - 2
  let high := 4 * x.m + 2
  let closed := x.m % 2 == 0
  let above := compareScaled d.digits d.scale low (x.q - 2)
  let below := compareScaled d.digits d.scale high (x.q - 2)
  (above == .gt || (closed && above == .eq)) && (below == .lt || (closed && below == .eq))

/-- The least `k` with `m · 2^q < 10^k`, for `m > 0`: an estimate from the binary logarithm,
corrected by exact comparison. -/
def Binary.leadingScale (x : Binary) : Int :=
  let estimate := Int.fdiv (((x.m.log2 : Int) + x.q) * 30103) 100000
  let fits (k : Int) : Bool := compareScaled 1 k x.m x.q == .gt
  if fits (estimate - 1) then estimate - 1
  else if fits estimate then estimate
  else if fits (estimate + 1) then estimate + 1
  else estimate + 2

/-- The decimal on the grid `10^scale` that identifies the value, the nearer of its two
neighbours where both do. -/
def Binary.onGrid (x : Binary) (tie : Tie) (scale : Int) : Option Scaled :=
  let numerator := x.m * Nat.pow 2 x.q.toNat * Nat.pow 10 (-scale).toNat
  let denominator := Nat.pow 2 (-x.q).toNat * Nat.pow 10 scale.toNat
  let floor := numerator / denominator
  let lower : Scaled := ⟨floor, scale⟩
  let upper : Scaled := ⟨floor + 1, scale⟩
  match x.identifiedBy lower, x.identifiedBy upper with
  | false, false => none
  | true, false => some lower
  | false, true => some upper
  | true, true =>
    match compare (2 * (numerator % denominator)) denominator with
    | .lt => some lower
    | .gt => some upper
    | .eq =>
      match tie with
      | .upward => some upper
      | .toEven => if floor % 2 == 0 then some lower else some upper

/-- Zeros at the end of the digits move into the scale; the count bounds how many. -/
def Scaled.strip (d : Scaled) : Nat → Scaled
  | 0 => d
  | count + 1 =>
    if d.digits % 10 == 0 && d.digits != 0 then Scaled.strip ⟨d.digits / 10, d.scale + 1⟩ count
      else d

/-- The shortest decimal that identifies a positive value. Grids are tried from one digit to
seventeen; were none to hit, the exact value is given. -/
def Binary.shortest (x : Binary) (tie : Tie) : Scaled :=
  let k := x.leadingScale
  let hit := (List.range 17).findSome? fun (n : Nat) => x.onGrid tie (k - 1 - (n : Int))
  match hit with
  | some d => d.strip 18
  | none => ⟨x.m * Nat.pow 2 x.q.toNat * Nat.pow 5 (-x.q).toNat, min x.q 0⟩

/-- What the search on one grid returns identifies the value. -/
theorem Binary.identified_by_on_grid (x : Binary) (tie : Tie) (scale : Int) (d : Scaled)
    (found : x.onGrid tie scale = some d) : x.identifiedBy d = true := by
  unfold onGrid at found
  simp only at found
  split at found
  · simp at found
  · simp_all
  · simp_all
  · split at found
    · simp_all
    · simp_all
    · cases tie <;> simp at found
      · split at found <;> simp_all
      · simp_all

end SqlAccess.Decimal
