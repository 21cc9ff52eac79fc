import SqlAccess.Text.Lowercase
import SqlAccess.Text.Percent
import SqlAccess.Text.Pieces

/-!
# URL paths

The segments of a path, resolved from left to right: a single dot is dropped, and a double
dot takes the segment before it away. A dot may also be written percent-encoded. A path
that ends in dots ends in an empty segment.
-/

namespace SqlAccess.Url

/-- The characters that are encoded everywhere: controls and all that is not ASCII. -/
def isControlOrForeign (c : Char) : Bool := c.toNat < 0x20 || 0x7E < c.toNat

namespace Path

/-- The characters that are encoded in a path. -/
def escaped (c : Char) : Bool :=
  isControlOrForeign c || " \"<>`#?^\x7b\x7d".toList.contains c

/-- A segment with its encoded dots written out. -/
def dots (segment : List Char) : List Char :=
  match segment with
  | '%' :: '2' :: 'e' :: rest | '%' :: '2' :: 'E' :: rest => '.' :: dots rest
  | c :: rest => c :: dots rest
  | [] => []

/-- One dot. -/
def isSingleDot (segment : List Char) : Bool := dots segment == ['.']

/-- Two dots. -/
def isDoubleDot (segment : List Char) : Bool := dots segment == ['.', '.']

/-- A letter with a colon or a bar names a drive, alone or with a backslash behind it. A double dot
leaves a drive in place. -/
def isDrive (segment : List Char) : Bool :=
  match segment with
  | letter :: mark :: rest =>
    letter.isAlpha && (mark = ':' || mark = '|') && (rest.isEmpty || rest.head? == some '\\')
  | _ => false

/-- The kept segments, last one first, without the last. -/
def shortened : List (List Char) → List (List Char)
  | [] => []
  | last :: kept => if isDrive last then last :: kept else kept

/-- The segments that remain, behind those kept so far, last one first. -/
def resolve (kept : List (List Char)) : List (List Char) → List (List Char)
  | [] => kept.reverse
  | segment :: rest =>
    let resolved :=
      if isDoubleDot segment then shortened kept
      else if isSingleDot segment then kept
      else segment :: kept
    if rest.isEmpty && (isDoubleDot segment || isSingleDot segment) then ([] :: resolved).reverse
    else resolve resolved rest

/-- The segments of a written path; its slash at the start is understood. -/
def segments (s : List Char) : List (List Char) :=
  Text.splitOn '/' (match s with
    | '/' :: rest => rest
    | other => other)

/-- The path that a text writes: empty, or resolved segments each behind a slash. -/
def normalized (s : List Char) : List Char :=
  if s.isEmpty then []
  else '/' :: Text.joinWith ['/'] (resolve [] ((segments s).map (Text.Percent.encode escaped)))

end Path

end SqlAccess.Url
