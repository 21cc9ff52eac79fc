/-!
# UTF-8

Bytes are cut into characters and into faulty pieces. A faulty piece is as long as
it could still have been the beginning of a character, and one byte where it could
not. Strict reading refuses any fault; lenient reading shows each as the
replacement character.
-/

namespace SqlAccess.Text.Utf8

/-- A character that is begun: the value of its bits so far, how many bytes it lacks, and the least
and the greatest byte that may come next. -/
structure Pending where
  value : Nat
  owed : Nat
  least : UInt8
  greatest : UInt8

/-- What a byte completes, and what it leaves begun. -/
abbrev Step := List (Option Char) × Option Pending

/-- A byte between characters. -/
def start (b : UInt8) : Step :=
  let n := b.toNat
  if b < 0x80 then ([some (Char.ofNat n)], none)
  else if b < 0xC2 then ([none], none)
  else if b < 0xE0 then ([], some ⟨n % 32, 1, 0x80, 0xBF⟩)
  else if b == 0xE0 then ([], some ⟨n % 16, 2, 0xA0, 0xBF⟩)
  else if b == 0xED then ([], some ⟨n % 16, 2, 0x80, 0x9F⟩)
  else if b < 0xF0 then ([], some ⟨n % 16, 2, 0x80, 0xBF⟩)
  else if b == 0xF0 then ([], some ⟨n % 8, 3, 0x90, 0xBF⟩)
  else if b < 0xF4 then ([], some ⟨n % 8, 3, 0x80, 0xBF⟩)
  else if b == 0xF4 then ([], some ⟨n % 8, 3, 0x80, 0x8F⟩)
  else ([none], none)

/-- A byte that may continue a character; where it cannot, the character is a fault and the byte
begins anew. -/
def step (pending : Option Pending) (b : UInt8) : Step :=
  match pending with
  | none => start b
  | some p =>
    if p.least ≤ b && b ≤ p.greatest then
      let value := p.value * 64 + b.toNat % 64
      if p.owed ≤ 1 then ([some (Char.ofNat value)], none)
      else ([], some ⟨value, p.owed - 1, 0x80, 0xBF⟩)
    else
      let (completed, next) := start b
      (none :: completed, next)

/-- The characters of the bytes behind a begun one, `none` for each faulty piece. -/
def piecesFrom : Option Pending → List UInt8 → List (Option Char)
  | none, [] => []
  | some _, [] => [none]
  | pending, b :: rest =>
    let (completed, next) := step pending b
    completed ++ piecesFrom next rest

/-- The characters of the bytes, `none` for each faulty piece. -/
def pieces (bytes : List UInt8) : List (Option Char) := piecesFrom none bytes

/-- The text of the bytes, if they are without fault. -/
def decode? (bytes : List UInt8) : Option (List Char) :=
  (pieces bytes).foldr (fun piece text => piece.bind fun c => text.map (c :: ·)) (some [])

/-- The text of the bytes, the replacement character for each fault. -/
def decodeLenient (bytes : List UInt8) : List Char :=
  (pieces bytes).map fun piece => piece.getD '\ufffd'

/-- The bytes of a character. -/
def encodeChar (c : Char) : List UInt8 :=
  let n := c.toNat
  if n < 0x80 then [UInt8.ofNat n]
  else if n < 0x800 then [UInt8.ofNat (0xC0 + n / 64), UInt8.ofNat (0x80 + n % 64)]
  else if n < 0x10000 then
    [UInt8.ofNat (0xE0 + n / 4096), UInt8.ofNat (0x80 + n / 64 % 64), UInt8.ofNat (0x80 + n % 64)]
  else
    [UInt8.ofNat (0xF0 + n / 262144), UInt8.ofNat (0x80 + n / 4096 % 64),
     UInt8.ofNat (0x80 + n / 64 % 64), UInt8.ofNat (0x80 + n % 64)]

/-- The bytes of a text. -/
def encode (s : List Char) : List UInt8 := s.flatMap encodeChar

end SqlAccess.Text.Utf8
