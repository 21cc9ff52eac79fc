import SqlAccess.Bytes.Hex

/-!
# GUIDs

Sixteen bytes. They are written in lower-case hexadecimal with four hyphens; they
are read with or without the hyphens, the hyphenated form also in braces or behind
`urn:uuid:`.
-/

namespace SqlAccess

/-- Sixteen bytes. -/
structure Guid where
  bytes : List UInt8
  size : bytes.length = 16
deriving DecidableEq, Repr

namespace Guid

/-- The GUID of these bytes, when there are sixteen. -/
def ofBytes? (bytes : List UInt8) : Option Guid :=
  if size : bytes.length = 16 then some ⟨bytes, size⟩ else none

/-- Groups of eight, four, four, four and twelve digits with hyphens between them. -/
def hyphenated (digits : List Char) : List Char :=
  digits.take 8 ++ '-' :: ((digits.drop 8).take 4 ++ '-' :: ((digits.drop 12).take 4 ++
    '-' :: ((digits.drop 16).take 4 ++ '-' :: digits.drop 20)))

/-- The hyphenated text. -/
def text (guid : Guid) : List Char := hyphenated (Bytes.hexLower guid.bytes)

/-- The GUID of thirty-two digits. -/
def ofDigits? (digits : List Char) : Option Guid := (Bytes.ofHex? digits).bind ofBytes?

/-- The digits between four hyphens at their places. -/
def ungroup? (s : List Char) : Option (List Char) :=
  let digits := s.take 8 ++ (s.drop 9).take 4 ++ (s.drop 14).take 4 ++ (s.drop 19).take 4 ++
    s.drop 24
  if hyphenated digits = s then some digits else none

/-- The hyphenated text inside braces or behind its scheme. -/
def unwrap (s : List Char) : List Char :=
  if s.length = 38 then
    match s with
    | '\x7b' :: rest => if s.getLast? = some '\x7d' then rest.dropLast else s
    | _ => s
  else if s.length = 45 ∧ (s.take 9).map Char.toLower = "urn:uuid:".toList then s.drop 9
  else s

/-- The GUID that a text is. -/
def parse? (s : List Char) : Option Guid :=
  if s.length = 32 then ofDigits? s
  else
    let body := unwrap s
    if body.length = 36 then (ungroup? body).bind ofDigits? else none

/-- Hyphens between thirty-two digits come out again. -/
theorem ungroup?_hyphenated {digits : List Char} (count : digits.length = 32) :
    ungroup? (hyphenated digits) = some digits := by
  have groups : (hyphenated digits).take 8 ++ ((hyphenated digits).drop 9).take 4 ++
      ((hyphenated digits).drop 14).take 4 ++ ((hyphenated digits).drop 19).take 4 ++
      (hyphenated digits).drop 24 = digits := by
    calc _ = digits.take 8 ++ ((digits.drop 8).take 4 ++ ((digits.drop 12).take 4 ++
        ((digits.drop 16).take 4 ++ digits.drop 20))) := by
          simp [hyphenated, List.drop_append, List.drop_take, count]
      _ = digits := by
          have fourth := List.take_append_drop 4 (digits.drop 16)
          have third := List.take_append_drop 4 (digits.drop 12)
          have second := List.take_append_drop 4 (digits.drop 8)
          rw [List.drop_drop] at second third fourth
          rw [fourth, third, second, List.take_append_drop]
  unfold ungroup?
  rw [groups]
  exact if_pos rfl

/-- The hyphenated text is thirty-six characters long. -/
theorem length_hyphenated {digits : List Char} (count : digits.length = 32) :
    (hyphenated digits).length = 36 := by
  simp [hyphenated, count]

/-- What is written of a GUID reads back as it. -/
theorem parse?_text (guid : Guid) : parse? guid.text = some guid := by
  have count : (Bytes.hexLower guid.bytes).length = 32 := by
    rw [Bytes.hexLower, Bytes.length_hex_with, guid.size]
  have length : guid.text.length = 36 := length_hyphenated count
  have bare : unwrap guid.text = guid.text := by simp [unwrap, length]
  have digits : ofDigits? (Bytes.hexLower guid.bytes) = some guid := by
    simp [ofDigits?, Bytes.hexLower, Bytes.of_hex?_hex_with Bytes.legible_lower, ofBytes?,
      guid.size]
  have ungrouped : ungroup? guid.text = some (Bytes.hexLower guid.bytes) :=
    ungroup?_hyphenated count
  simp [parse?, length, bare, ungrouped, digits]

/-- A GUID is written in digits and hyphens. -/
theorem mem_text (guid : Guid) : ∀ c ∈ guid.text, c ∈ "0123456789abcdef-".toList := by
  have digits (c : Char) (member : c ∈ Bytes.hexLower guid.bytes) :
      c ∈ "0123456789abcdef-".toList := by
    obtain ⟨d, small, rfl⟩ := Bytes.mem_hex_with member
    exact (by decide : ∀ d < 16, Bytes.digit 'a' d ∈ "0123456789abcdef-".toList) d small
  intro c member
  simp only [text, hyphenated, List.mem_append, List.mem_cons] at member
  rcases member with taken | rfl | taken | rfl | taken | rfl | taken | rfl | taken
  · exact digits c (List.mem_of_mem_take taken)
  · decide
  · exact digits c (List.mem_of_mem_drop (List.mem_of_mem_take taken))
  · decide
  · exact digits c (List.mem_of_mem_drop (List.mem_of_mem_take taken))
  · decide
  · exact digits c (List.mem_of_mem_drop (List.mem_of_mem_take taken))
  · decide
  · exact digits c (List.mem_of_mem_drop taken)

end Guid

end SqlAccess
