import SqlAccess.Text.Blank
import SqlAccess.Text.Lowercase
import SqlAccess.Text.Pieces

/-!
# Settings strings

Connection strings that list settings: segments between semicolons, each a key, an equals
sign and a value. Keys are compared without regard to blanks around them and to the case of
ASCII letters. A segment without an equals sign is kept and means nothing.
-/

namespace SqlAccess.Settings

/-- The key and the value of a segment, cut at its first equals sign. -/
def pair? (segment : List Char) : Option (List Char × List Char) := Text.cutAt '=' segment

/-- True when a key is spelt like one of the names, which are in lower case. -/
def isKeyAmong (names : List String) (key : List Char) : Bool :=
  names.any fun name => Text.lowerAscii (Text.trim key) == name.toList

/-- The keys of the database. -/
def isDatabaseKey (key : List Char) : Bool := isKeyAmong ["database", "initial catalog"] key

/-- The keys of the password. -/
def isPasswordKey (key : List Char) : Bool := isKeyAmong ["password", "pwd"] key

/-- True for a segment that sets the database. -/
def setsDatabase (segment : List Char) : Bool :=
  match pair? segment with
  | some (key, _) => isDatabaseKey key
  | none => false

/-- The first database that is set, blanks around it taken away; an empty one names none. -/
def database? (s : List Char) : Option (List Char) :=
  let values := (Text.splitOn ';' s).filterMap fun segment =>
    (pair? segment).filter (fun pair => isDatabaseKey pair.1)
  match values with
  | (_, value) :: _ => some (Text.trim value) |>.filter fun name => !name.isEmpty
  | [] => none

/-- The first segment that sets the database sets the given one, later ones are dropped; where
there is none, one is added. All segments lose the blanks around them. -/
def replaceDatabase (name : List Char) : List (List Char) → List (List Char)
  | [] => ["Database=".toList ++ name]
  | segment :: rest =>
    match pair? segment with
    | some (key, _) =>
      if isDatabaseKey key then
        (Text.trim key ++ '=' :: name) ::
          ((rest.filter fun later => !setsDatabase later).map Text.trim)
      else Text.trim segment :: replaceDatabase name rest
    | none => Text.trim segment :: replaceDatabase name rest

/-- The string with another database; blank segments are left out. -/
def withDatabase (s name : List Char) : List Char :=
  let segments := (Text.splitOn ';' s).filter fun segment => !segment.all Text.isBlank
  Text.joinWith [';'] (replaceDatabase name segments)

/-- A segment with its value hidden where the key is one of the password. -/
def maskedSegment (segment : List Char) : List Char :=
  match pair? segment with
  | some (key, _) => if isPasswordKey key then key ++ "=****".toList else segment
  | none => segment

/-- The string with its passwords hidden. -/
def masked (s : List Char) : List Char :=
  Text.joinWith [';'] ((Text.splitOn ';' s).map maskedSegment)

end SqlAccess.Settings
