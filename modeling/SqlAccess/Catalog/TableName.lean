import SqlAccess.Error
import SqlAccess.Text.Blank
import SqlAccess.Text.Lowercase
import SqlAccess.Text.Quoted

/-!
# Table names

A table is named with or without its schema, each part plain or in one of three styles of
quotes. The name is looked up in the list of tables: as it is spelt first, and without regard
to case where no entry is spelt so.
-/

namespace SqlAccess.TableName

/-- Refuse a name without a visible character. -/
def require (name : String) : Except Error Unit :=
  if Text.isBlankText name then .error (.configuration "table name must not be empty") else .ok ()

/-- The opening and closing quotes. -/
def styles : List (Char × Char) := [('"', '"'), ('[', ']'), ('\x60', '\x60')]

/-- A part of a name without the blanks and the quotes around it. Inside, a doubled closing quote
stands for one. -/
def unquote (part : List Char) : List Char :=
  let trimmed := Text.trim part
  let inner := styles.findSome? fun style =>
    (Text.Quoted.inside? style.1 style.2 trimmed).map (Text.Quoted.collapse style.2)
  inner.getD trimmed

/-- The quote that closes the one that a character opens. -/
def closingOf? (c : Char) : Option Char := (styles.find? fun style => style.1 == c).map (·.2)

/-- Put a character in front of the first part. -/
def onto (c : Char) : List (List Char) → List (List Char)
  | [] => [[c]]
  | part :: parts => (c :: part) :: parts

/-- The parts between the dots outside quotes; `closing` ends the quotes that are open. -/
def parts (closing : Option Char) : List Char → List (List Char)
  | [] => [[]]
  | c :: rest =>
    match closing with
    | some quote => onto c (parts (if c = quote then none else some quote) rest)
    | none => if c = '.' then [] :: parts none rest else onto c (parts (closingOf? c) rest)

/-- The table that a name asks for: its last part, and the part before it as the schema. -/
def parse (name : String) : Except Error TableRef := do
  require name
  match ((parts none (Text.trim name.toList)).map unquote).reverse with
  | [] => throw (.configuration ("'" ++ name ++ "' does not name a table"))
  | table :: before =>
    if table.all Text.isBlank then
      throw (.configuration ("'" ++ name ++ "' does not name a table"))
    let schema := (before.head?.filter fun schema => !schema.isEmpty).map String.ofList
    return ⟨schema, String.ofList table⟩

/-- Schemas are compatible where one is missing or both are the same. -/
def schemasAgree (same : String → String → Bool) (requested entry : TableRef) : Bool :=
  match requested.schema, entry.schema with
  | some wanted, some found => same wanted found
  | _, _ => true

/-- The entries whose name and schema are the same as those asked for. -/
def candidates (same : String → String → Bool) (tables : List TableRef) (requested : TableRef) :
    List TableRef :=
  tables.filter fun entry => same entry.name requested.name && schemasAgree same requested entry

/-- Of several entries the first of the default schema, where no schema was asked for; else the
first. -/
def preferred (defaultSchema : Option String) (requested : TableRef) (entries : List TableRef) :
    Option TableRef :=
  (entries.find? fun entry => requested.schema.isNone && entry.schema == defaultSchema).or
    entries.head?

/-- The entry of a list of tables that a name stands for. -/
def resolve (defaultSchema : Option String) (tables : List TableRef) (requested : TableRef) :
    Option TableRef :=
  let exact := candidates (· == ·) tables requested
  let entries :=
    if exact.isEmpty then
      candidates (fun s t => Text.lowered s == Text.lowered t) tables requested
    else exact
  preferred defaultSchema requested entries

end SqlAccess.TableName
