import SqlAccess.Bytes.Hex
import SqlAccess.Json

/-!
# Written JSON

The compact form has no blanks; the indented form puts each member on a line of its
own, two spaces per level, and keeps empty containers on one line. In both, a quote,
a backslash and the control characters below the space are escaped and nothing else
is. Numbers that are not finite are written as null.
-/

namespace SqlAccess.Json

/-- Numbers in JSON text are positional from 10^-5 up to 10^16, and a positive exponent has its
sign. -/
def numberStyle : Binary64.Style where
  plainFrom := -5
  plainBelow := 16
  pointZero := true
  signedExponent := true
  tie := .toEven

/-- A character as it stands between quotes. -/
def escapeChar (c : Char) : List Char :=
  match c with
  | '"' => ['\\', '"']
  | '\\' => ['\\', '\\']
  | '\n' => ['\\', 'n']
  | '\r' => ['\\', 'r']
  | '\t' => ['\\', 't']
  | _ =>
    if c.toNat == 8 then ['\\', 'b']
    else if c.toNat == 12 then ['\\', 'f']
    else if c.toNat < 0x20 then
      ['\\', 'u', '0', '0', Bytes.digit 'a' (c.toNat / 16), Bytes.digit 'a' (c.toNat % 16)]
    else [c]

/-- A text between quotes. -/
def writeText (s : String) : List Char := '"' :: (s.toList.flatMap escapeChar ++ ['"'])

/-- A number with a point or an exponent; null when it is not finite. -/
def writeFloat (x : Binary64) : List Char :=
  if x.isFinite then numberStyle.render x else ['n', 'u', 'l', 'l']

mutual

/-- The compact form. -/
def write : Json → List Char
  | .null => ['n', 'u', 'l', 'l']
  | .bool true => ['t', 'r', 'u', 'e']
  | .bool false => ['f', 'a', 'l', 's', 'e']
  | .int i => Decimal.ofInt i
  | .float x => writeFloat x
  | .string s => writeText s
  | .array items => '[' :: (writeItems items ++ [']'])
  | .object fields => '\x7b' :: (writeFields fields ++ ['\x7d'])

/-- Items with commas between them. -/
def writeItems : List Json → List Char
  | [] => []
  | [item] => write item
  | item :: next :: rest => write item ++ ',' :: writeItems (next :: rest)

/-- Fields with commas between them. -/
def writeFields : List (String × Json) → List Char
  | [] => []
  | [(name, value)] => writeText name ++ ':' :: write value
  | (name, value) :: next :: rest =>
    writeText name ++ ':' :: write value ++ ',' :: writeFields (next :: rest)

end

/-- The compact form as a string. -/
def compact (value : Json) : String := String.ofList (write value)

/-- A line break and the blanks of a level. -/
def newline (level : Nat) : List Char := '\n' :: List.replicate (2 * level) ' '

mutual

/-- The indented form of a value that stands at a level. -/
def writeIndented (level : Nat) : Json → List Char
  | .null => ['n', 'u', 'l', 'l']
  | .bool true => ['t', 'r', 'u', 'e']
  | .bool false => ['f', 'a', 'l', 's', 'e']
  | .int i => Decimal.ofInt i
  | .float x => writeFloat x
  | .string s => writeText s
  | .array [] => ['[', ']']
  | .array (item :: rest) =>
    '[' :: (writeIndentedItems (level + 1) (item :: rest) ++ newline level ++ [']'])
  | .object [] => ['\x7b', '\x7d']
  | .object (field :: rest) =>
    '\x7b' :: (writeIndentedFields (level + 1) (field :: rest) ++ newline level ++ ['\x7d'])

/-- Items on lines of their own. -/
def writeIndentedItems (level : Nat) : List Json → List Char
  | [] => []
  | [item] => newline level ++ writeIndented level item
  | item :: next :: rest =>
    newline level ++ writeIndented level item ++ ',' :: writeIndentedItems level (next :: rest)

/-- Fields on lines of their own. -/
def writeIndentedFields (level : Nat) : List (String × Json) → List Char
  | [] => []
  | [(name, value)] => newline level ++ writeText name ++ ':' :: ' ' :: writeIndented level value
  | (name, value) :: next :: rest =>
    newline level ++ writeText name ++ ':' :: ' ' :: writeIndented level value ++
      ',' :: writeIndentedFields level (next :: rest)

end

/-- The indented form as a string. -/
def indented (value : Json) : String := String.ofList (writeIndented 0 value)

end SqlAccess.Json
