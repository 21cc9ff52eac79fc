import SqlAccess.Dialect
import SqlAccess.Literal
import SqlAccess.Text.Pieces

/-!
# Reading defaults from a catalog

A catalog shows a default as SQL text. Redundant parentheses are taken off, and the
rest is a literal of the dialect or, where it is anything else, an expression. A
PostgreSQL literal may carry a cast, which is dropped.
-/

namespace SqlAccess.Literal

/-- Scan a text at a parenthesis depth, inside or outside a quote: true when the depth ends at zero
and comes to zero by closing at the last character only. The depth has no bound here. A count of 32
bits would leave its range behind `2^31` parentheses that are not closed, and no catalog holds a
text that long: texts of SQLite have fewer than `2^31` bytes, fields of PostgreSQL at most `2^30`,
and definitions in SQL Server at most `2^30` characters. -/
def closesAtEnd (depth : Int) (quoted : Bool) : List Char → Bool
  | [] => depth == 0
  | c :: rest =>
    if c = '\'' then closesAtEnd depth (!quoted) rest
    else if quoted then closesAtEnd depth quoted rest
    else if c = '(' then closesAtEnd (depth + 1) quoted rest
    else if c = ')' then
      if depth - 1 == 0 && !rest.isEmpty then false else closesAtEnd (depth - 1) quoted rest
    else closesAtEnd depth quoted rest

/-- The text inside a pair of outer parentheses, when the first is closed by the last character. -/
def peel? (s : List Char) : Option (List Char) :=
  match Text.Quoted.inside? '(' ')' s with
  | some inner => if closesAtEnd 0 false s then some (Text.trim inner) else none
  | none => none

/-- Trimming makes no text longer. -/
theorem length_trim_le (s : List Char) : (Text.trim s).length ≤ s.length := by
  have atEnd (t : List Char) : (Text.trimEnd t).length ≤ t.length := by
    have shorter := (List.dropWhile_sublist (p := Text.isBlank) (l := t.reverse)).length_le
    simpa [Text.trimEnd] using shorter
  have atStart : (Text.trimStart s).length ≤ s.length :=
    (List.dropWhile_sublist (p := Text.isBlank) (l := s)).length_le
  exact Nat.le_trans (atEnd _) atStart

/-- The text between two ends is shorter than the text with them. -/
theorem length_inside (opening closing : Char) (s inner : List Char)
    (found : Text.Quoted.inside? opening closing s = some inner) : inner.length + 2 = s.length := by
  unfold Text.Quoted.inside? at found
  split at found
  · simp at found
  · rename_i c rest
    split at found
    · split at found
      · simp at found
      · rename_i last middle backwards
        split at found
        · have same : rest.length = middle.length + 1 := by
            have count := congrArg List.length backwards
            simpa using count
          simp only [Option.some.injEq] at found
          subst found
          simp [same]
        · simp at found
    · simp at found

/-- Every layer taken off makes the text shorter. -/
theorem length_peel (s inner : List Char) (peeled : peel? s = some inner) :
    inner.length < s.length := by
  unfold peel? at peeled
  split at peeled
  · rename_i between found
    split at peeled
    · simp only [Option.some.injEq] at peeled
      have shorter := length_inside '(' ')' s between found
      have trimmed := length_trim_le between
      rw [← peeled]
      omega
    · simp at peeled
  · simp at peeled

/-- Take off redundant outer parentheses, with the blanks inside each layer. -/
def stripLayers (s : List Char) : List Char :=
  match _peeled : peel? s with
  | some inner => stripLayers inner
  | none => s
termination_by s.length
decreasing_by exact length_peel s inner _peeled

/-- Take off blanks and redundant outer parentheses. -/
def stripParens (s : List Char) : List Char := stripLayers (Text.trim s)

/-- The two sides of the first double colon outside quotes and parentheses. The depth has no bound,
as in `closesAtEnd`. -/
def cutAtCast (depth : Int) (quoted : Bool) : List Char → Option (List Char × List Char)
  | [] => none
  | c :: rest =>
    let go (depth : Int) (quoted : Bool) : Option (List Char × List Char) :=
      (cutAtCast depth quoted rest).map fun sides => (c :: sides.1, sides.2)
    if c = '\'' then go depth (!quoted)
    else if quoted then go depth quoted
    else if c = '(' then go (depth + 1) quoted
    else if c = ')' then go (depth - 1) quoted
    else if c = ':' ∧ depth = 0 then
      match rest with
      | ':' :: cast => some ([], cast)
      | _ => go depth quoted
    else go depth quoted

/-- A literal that every dialect knows; an expression where it is none, and nothing for no text. -/
def readPlain (s : List Char) : Option Literal :=
  if s.isEmpty then none
  else if Text.sameIgnoringAsciiCase s "null".toList then some .null
  else
    match unquoteText s with
    | some content => some (.text content)
    | none =>
      if Text.sameIgnoringAsciiCase s "true".toList then some (.bool true)
      else if Text.sameIgnoringAsciiCase s "false".toList then some (.bool false)
      else
        match Decimal.int64Value? s with
        | some i => some (.int (Int64.ofInt i))
        | none =>
          if isDecimalText s then some (.decimal (String.ofList s))
          else some (.expression (String.ofList s))

/-- The bytes of a hexadecimal literal in single quotes behind an X. -/
def readHexQuoted : List Char → Option (List UInt8)
  | [] => none
  | c :: rest =>
    if c = 'X' ∨ c = 'x' then (unquoteText rest).bind fun digits => Bytes.ofHex? digits.toList
    else none

/-- A default of SQLite, its parentheses taken off. A text in double quotes counts as a literal,
since it names no column. -/
def readSqlite (s : List Char) : Option Literal :=
  match readHexQuoted s with
  | some content => some (.bytes content)
  | none =>
    match Text.Quoted.inside? '"' '"' s with
    | some inner => some (.text (String.ofList (Text.Quoted.collapse '"' inner)))
    | none => readPlain s

/-- The bytes of a quoted text of hexadecimal digits behind a backslash and an x. -/
def readHexEscape (s : List Char) : Option (List UInt8) := do
  let content ← unquoteText s
  let digits ← Text.dropStart? ['\\', 'x'] content.toList
  Bytes.ofHex? digits

/-- A default of PostgreSQL, its parentheses taken off. -/
def readPostgres (s : List Char) : Option Literal :=
  match cutAtCast 0 false s with
  | none => readPlain s
  | some (front, cast) =>
    let head := stripParens front
    let content :=
      if Text.lowerAscii (Text.trim cast) = "bytea".toList then readHexEscape head else none
    match content with
    | some content => some (.bytes content)
    | none =>
      match readPlain head with
      | none | some (.expression _) => some (.expression (String.ofList s))
      | literal => literal

/-- A default of SQL Server, its parentheses taken off. -/
def readSqlServer (s : List Char) : Option Literal :=
  let hexadecimal :=
    match s with
    | '0' :: x :: digits => if x = 'x' ∨ x = 'X' then Bytes.ofHex? digits else none
    | _ => none
  match hexadecimal with
  | some content => some (.bytes content)
  | none =>
    let national :=
      match s with
      | n :: rest => if n = 'N' ∨ n = 'n' then unquoteText rest else none
      | [] => none
    match national with
    | some content => some (.text content)
    | none => readPlain s

/-- The default that a catalog shows as a text; none where the text is empty. -/
def ofCatalog (dialect : Dialect) (raw : String) : Option Literal :=
  let s := stripParens raw.toList
  match dialect with
  | .sqlite => readSqlite s
  | .postgres => readPostgres s
  | .sqlServer => readSqlServer s

end SqlAccess.Literal
