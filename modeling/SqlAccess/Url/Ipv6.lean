import SqlAccess.Bytes.Hex
import SqlAccess.Decimal.Digits
import SqlAccess.Text.Pieces

/-!
# IPv6 addresses

Eight groups of sixteen bits. Two colons in a row stand for as many zero groups as are
missing, at least one, and occur at most once; the last two groups may be written as four
decimal numbers. The written form leaves out the longest run of two or more zero groups,
the first one where runs are equally long.
-/

namespace SqlAccess.Url

/-- An address as its groups. -/
structure Ipv6 where
  groups : List Nat
  eight : groups.length = 8
deriving Repr

namespace Ipv6

/-- One to four hexadecimal digits. -/
def group? (s : List Char) : Option Nat :=
  if s.length = 0 ∨ 4 < s.length then none
  else s.foldl (fun value c => value.bind fun v => (Bytes.digitValue? c).map (16 * v + ·)) (some 0)

/-- A number below 256 without redundant zeros. -/
def octet? (s : List Char) : Option Nat :=
  (Decimal.natValue? s).filter fun n => n < 256 && Decimal.ofNat n == s

/-- Four decimal numbers as two groups. -/
def dotted? (s : List Char) : Option (List Nat) :=
  match (Text.splitOn '.' s).mapM octet? with
  | some [a, b, c, d] => some [256 * a + b, 256 * c + d]
  | _ => none

/-- Groups between colons; where the address ends with them, the last may be dotted. -/
def run? (final : Bool) (pieces : List (List Char)) : Option (List Nat) :=
  match pieces with
  | [] => some []
  | [piece] =>
    if final && piece.contains '.' then dotted? piece else (group? piece).map ([·])
  | piece :: rest => do
    let first ← group? piece
    let others ← run? final rest
    return first :: others

/-- The groups of a side, which may be empty. -/
def side? (final : Bool) (s : List Char) : Option (List Nat) :=
  if s.isEmpty then some [] else run? final (Text.splitOn ':' s)

/-- An address from its groups, if there are eight. -/
def ofGroups? (groups : List Nat) : Option Ipv6 :=
  if eight : groups.length = 8 then some ⟨groups, eight⟩ else none

/-- The address that a text writes. -/
def parse? (s : List Char) : Option Ipv6 :=
  match Text.cutAtPart "::".toList s with
  | none => (run? true (Text.splitOn ':' s)).bind ofGroups?
  | some (left, right) => do
    let before ← side? false left
    let after ← side? true right
    let present := before.length + after.length
    if present ≤ 7 then ofGroups? (before ++ List.replicate (8 - present) 0 ++ after) else none

/-- How many zero groups a list starts with. -/
def zeros (groups : List Nat) : Nat := (groups.takeWhile (· == 0)).length

/-- The first place with the longest run of zero groups, and its length. -/
def longestZeros (groups : List Nat) : Nat × Nat :=
  (List.range groups.length).foldl
    (fun best place =>
      let length := zeros (groups.drop place)
      if best.2 < length then (place, length) else best)
    (0, 0)

/-- A group in hexadecimal digits. -/
def groupText (group : Nat) : List Char := Nat.toDigits 16 group

/-- The written form. -/
def text (address : Ipv6) : List Char :=
  let colonized (groups : List Nat) := Text.joinWith [':'] (groups.map groupText)
  let (place, length) := longestZeros address.groups
  if length < 2 then colonized address.groups
  else
    colonized (address.groups.take place) ++ "::".toList ++
      colonized (address.groups.drop (place + length))

end Ipv6

end SqlAccess.Url
