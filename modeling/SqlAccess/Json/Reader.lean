import SqlAccess.Bytes.Hex
import SqlAccess.Json.Number
import SqlAccess.Text.Pieces

/-!
# Reading JSON

One value with blanks around it and nothing else. Containers nest fewer than 128
deep, control characters must be escaped, and a surrogate must have its partner. A
repeated field name keeps its first place and its last value.
-/

namespace SqlAccess.Json

/-- The four blanks of JSON. -/
def isJsonBlank (c : Char) : Bool := c == ' ' || c == '\t' || c == '\n' || c == '\r'

/-- The text from its first character that is not blank. -/
def skipBlanks (s : List Char) : List Char := s.dropWhile isJsonBlank

/-- The number of four hexadecimal digits. -/
def unit? (a b c d : Char) : Option Nat := do
  return ((← Bytes.digitValue? a) * 16 + (← Bytes.digitValue? b)) * 256 +
    (← Bytes.digitValue? c) * 16 + (← Bytes.digitValue? d)

/-- The character that a letter behind a backslash stands for. -/
def unescape? : Char → Option Char
  | '"' => some '"'
  | '\\' => some '\\'
  | '/' => some '/'
  | 'b' => some (Char.ofNat 8)
  | 'f' => some (Char.ofNat 12)
  | 'n' => some '\n'
  | 'r' => some '\r'
  | 't' => some '\t'
  | _ => none

/-- The text up to its closing quote, and what follows the quote. -/
def readText : List Char → Option (List Char × List Char)
  | [] => none
  | '"' :: rest => some ([], rest)
  | '\\' :: 'u' :: a :: b :: c :: d :: rest =>
    match unit? a b c d with
    | none => none
    | some unit =>
      if 0xD800 ≤ unit ∧ unit < 0xDC00 then
        match rest with
        | '\\' :: 'u' :: e :: f :: g :: h :: later =>
          match unit? e f g h with
          | none => none
          | some low =>
            if 0xDC00 ≤ low ∧ low < 0xE000 then
              (readText later).map fun result =>
                (Char.ofNat (0x10000 + (unit - 0xD800) * 0x400 + (low - 0xDC00)) :: result.1,
                  result.2)
            else none
        | _ => none
      else if 0xDC00 ≤ unit ∧ unit < 0xE000 then none
      else (readText rest).map fun result => (Char.ofNat unit :: result.1, result.2)
  | '\\' :: c :: rest =>
    match unescape? c with
    | none => none
    | some plain => (readText rest).map fun result => (plain :: result.1, result.2)
  | c :: rest =>
    if c.toNat < 0x20 || c == '\\' then none
    else (readText rest).map fun result => (c :: result.1, result.2)

mutual

/-- The value at the start of a text. The first number bounds the steps, the second is the
nesting that is still allowed. -/
def readValue : Nat → Nat → List Char → Option (Json × List Char)
  | 0, _, _ => none
  | steps + 1, depth, s =>
    match skipBlanks s with
    | '"' :: rest =>
      (readText rest).map fun result => (.string (String.ofList result.1), result.2)
    | '[' :: rest =>
      if depth ≤ 1 then none
      else
        match skipBlanks rest with
        | ']' :: after => some (.array [], after)
        | _ => (readItems steps (depth - 1) rest).map fun result => (.array result.1, result.2)
    | '\x7b' :: rest =>
      if depth ≤ 1 then none
      else
        match skipBlanks rest with
        | '\x7d' :: after => some (.object [], after)
        | _ =>
          (readFields steps (depth - 1) rest).map fun result =>
            (.object (Fields.ofPairs result.1), result.2)
    | other =>
      match Text.dropStart? ['n', 'u', 'l', 'l'] other with
      | some rest => some (.null, rest)
      | none =>
        match Text.dropStart? ['t', 'r', 'u', 'e'] other with
        | some rest => some (.bool true, rest)
        | none =>
          match Text.dropStart? ['f', 'a', 'l', 's', 'e'] other with
          | some rest => some (.bool false, rest)
          | none => readNumber other

/-- Items up to the closing bracket; at least one. -/
def readItems : Nat → Nat → List Char → Option (List Json × List Char)
  | 0, _, _ => none
  | steps + 1, depth, s =>
    match readValue steps depth s with
    | none => none
    | some (item, rest) =>
      match skipBlanks rest with
      | ']' :: after => some ([item], after)
      | ',' :: more =>
        (readItems steps depth more).map fun result => (item :: result.1, result.2)
      | _ => none

/-- Fields up to the closing brace; at least one. -/
def readFields : Nat → Nat → List Char → Option (List (String × Json) × List Char)
  | 0, _, _ => none
  | steps + 1, depth, s =>
    match skipBlanks s with
    | '"' :: quoted =>
      match readText quoted with
      | none => none
      | some (name, afterName) =>
        match skipBlanks afterName with
        | ':' :: body =>
          match readValue steps depth body with
          | none => none
          | some (value, rest) =>
            match skipBlanks rest with
            | '\x7d' :: after => some ([(String.ofList name, value)], after)
            | ',' :: more =>
              (readFields steps depth more).map fun result =>
                ((String.ofList name, value) :: result.1, result.2)
            | _ => none
        | _ => none
    | _ => none

end

/-- The value that a text holds. Every step consumes a character or goes one level down, so the
step bound is never reached. -/
def read? (s : List Char) : Option Json :=
  match readValue (2 * s.length + 2) 128 s with
  | some (value, rest) => if (skipBlanks rest).isEmpty then some value else none
  | none => none

/-- `read?` on strings. -/
def parse? (s : String) : Option Json := read? s.toList

end SqlAccess.Json
