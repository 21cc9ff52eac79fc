import SqlAccess.Error
import SqlAccess.Text.Alphabetic

/-!
# Database names

A name that can be put into a connection string of every dialect: a letter or an underscore
first, then letters, digits and three marks, 128 characters at the most.
-/

namespace SqlAccess.DatabaseName

/-- The most characters that a name may have. -/
def maxLength : Nat := 128

/-- The characters that a name may start with. -/
def startsName (c : Char) : Bool := Text.isAlphabetic c || c = '_'

/-- The characters that a name may go on with. -/
def continuesName (c : Char) : Bool :=
  Text.isAlphanumeric c || c = '_' || c = '$' || c = '-'

/-- Why a text is not a name, if it is none. -/
def objection? (name : List Char) : Option String :=
  match name with
  | [] => some "must not be empty"
  | first :: rest =>
    if maxLength < name.length then
      some ("must be at most " ++ Decimal.natText maxLength ++ " characters")
    else if !startsName first then some "must start with a letter or underscore"
    else (rest.find? fun c => !continuesName c).map fun c =>
      "contains invalid character '" ++ c.toString ++ "'"

/-- True for the texts that are names. -/
def isValid (name : List Char) : Bool :=
  match name with
  | [] => false
  | first :: rest => name.length ≤ maxLength && startsName first && rest.all continuesName

/-- Refuse what is not a name. -/
def validate (name : String) : Except Error Unit :=
  match objection? name.toList with
  | some reason => .error (.databaseName name reason)
  | none => .ok ()

/-- There is an objection to exactly the texts that are not names. -/
theorem objection?_eq_none_iff (name : List Char) :
    objection? name = none ↔ isValid name = true := by
  cases name with
  | nil => simp [objection?, isValid]
  | cons first rest =>
    simp only [objection?, isValid, List.length_cons, Bool.and_eq_true, decide_eq_true_eq]
    by_cases long : maxLength < rest.length + 1
    · simp [long, Nat.not_le.mpr long]
    · cases starts : startsName first <;> simp [long, Nat.not_lt.mp long]

end SqlAccess.DatabaseName
