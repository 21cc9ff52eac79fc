import SqlAccess.Text.Lowercase
import SqlAccess.Text.Pieces

/-!
# SQLite connection strings

A scheme, a file path and a query; the scheme and the query may be missing. The stem of the
file's name is the name of the database. A database in memory has no file.
-/

namespace SqlAccess

/-- A SQLite connection string in its three parts. -/
structure FilePath where
  scheme : List Char
  path : List Char
  /-- Everything from the first question mark on. -/
  query : List Char
deriving DecidableEq, Repr

namespace FilePath

/-- The spellings of the scheme, the longer one first. -/
def schemes : List (List Char) := ["sqlite://".toList, "sqlite:".toList]

/-- How many characters belong to the scheme, in any case. -/
def schemeLength (s : List Char) : Nat :=
  match schemes.find? fun scheme => Text.sameIgnoringAsciiCase (s.take scheme.length) scheme with
  | some scheme => scheme.length
  | none => 0

/-- The parts of a connection string. -/
def parse (s : List Char) : FilePath :=
  let rest := s.drop (schemeLength s)
  ⟨s.take (schemeLength s), rest.takeWhile (· ≠ '?'), rest.dropWhile (· ≠ '?')⟩

/-- The parts put together. -/
def text (file : FilePath) : List Char := file.scheme ++ file.path ++ file.query

/-- True for a database without a file. -/
def isMemory (file : FilePath) : Bool :=
  file.path.isEmpty || file.path == ":memory:".toList ||
    Text.contains "mode=memory".toList file.query

/-- The characters that stand between directories. -/
def isSeparator (c : Char) : Bool := c = '/' || c = '\\'

/-- The name of the file, behind the last separator. -/
def fileName (file : FilePath) : List Char :=
  (file.path.reverse.takeWhile fun c => !isSeparator c).reverse

/-- The directory of the file with its separator, or nothing. -/
def directory (file : FilePath) : List Char :=
  (file.path.reverse.dropWhile fun c => !isSeparator c).reverse

/-- The stem of a name, and its extension from the last dot on. A dot in the first place
starts no extension. -/
def cutExtension (name : List Char) : List Char × List Char :=
  match Text.cutAtLast '.' name with
  | some (stem, extension) => if stem.isEmpty then (name, []) else (stem, '.' :: extension)
  | none => (name, [])

/-- The stem of the file; a database in memory has none. -/
def stem (file : FilePath) : List Char :=
  if file.isMemory then [] else (cutExtension file.fileName).1

/-- The same string with another stem. -/
def withStem (file : FilePath) (stem : List Char) : FilePath :=
  { file with path := file.directory ++ stem ++ (cutExtension file.fileName).2 }

/-- The parts put together give the string that was read. -/
theorem text_parse (s : List Char) : (parse s).text = s := by
  simp [parse, text, List.takeWhile_append_dropWhile]

/-- A directory and a file name make the path. -/
theorem directory_append_file_name (file : FilePath) :
    file.directory ++ file.fileName = file.path := by
  rw [directory, fileName, ← List.reverse_append, List.takeWhile_append_dropWhile,
    List.reverse_reverse]

end FilePath

end SqlAccess
