import SqlAccess.Text.Printable

/-!
# Quoted text in diagnostics

A text between double quotes: quotes and backslashes are escaped, the common
controls have a letter, and a character that cannot be shown is written by its code
point.
-/

namespace SqlAccess.Text

/-- A character as it stands between the quotes. -/
def diagnosticChar (c : Char) : List Char :=
  match c with
  | '"' => ['\\', '"']
  | '\\' => ['\\', '\\']
  | '\n' => ['\\', 'n']
  | '\r' => ['\\', 'r']
  | '\t' => ['\\', 't']
  | '\x00' => ['\\', '0']
  | _ =>
    if isPrintable c then [c]
    else '\\' :: 'u' :: '\x7b' :: (Nat.toDigits 16 c.toNat ++ ['\x7d'])

/-- A text between quotes. -/
def diagnosticText (s : String) : String :=
  String.ofList ('"' :: (s.toList.flatMap diagnosticChar ++ ['"']))

end SqlAccess.Text
