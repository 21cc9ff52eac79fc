import SqlAccess.Text.Percent
import SqlAccess.Text.Pieces

/-!
# Form-encoded pairs

The reading of a query as named values: pairs stand between ampersands, a name ends at
the first equals sign, a plus stands for a space. The plus is read before percent signs
are, so that an encoded plus stays a plus.
-/

namespace SqlAccess.Url.Form

/-- The text of an encoded name or value. -/
def decode (s : List Char) : List Char :=
  let spaced := s.map fun c => if c = '+' then ' ' else c
  Text.Utf8.decodeLenient (Text.Percent.decode (Text.Utf8.encode spaced))

/-- One pair; without an equals sign the value is empty. -/
def pair (s : List Char) : List Char × List Char :=
  match Text.cutAt '=' s with
  | some (name, value) => (decode name, decode value)
  | none => (decode s, [])

/-- The pairs of a query in order; empty pieces are skipped. -/
def pairs (query : List Char) : List (List Char × List Char) :=
  ((Text.splitOn '&' query).filter fun piece => !piece.isEmpty).map pair

end SqlAccess.Url.Form
