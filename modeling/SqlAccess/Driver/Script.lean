import SqlAccess.Driver
import SqlAccess.Text.Blank
import SqlAccess.Text.Pieces

/-!
# Scripted drivers

A driver that answers from a list: the first response whose text occurs in the statement, and
whose first parameter fits, gives the rows or the error. Statements are compared with every
run of blanks as one blank. Every other call can be made to fail.
-/

namespace SqlAccess

/-- A text with single blanks between its words and none at its ends. -/
def singleSpaced (s : String) : String :=
  let words := s.toList.foldr
    (fun c words =>
      if Text.isBlank c then [] :: words
      else match words with
        | [] => [[c]]
        | word :: rest => (c :: word) :: rest)
    [[]]
  String.ofList (Text.joinWith [' '] (words.filter fun word => !word.isEmpty))

/-- An answer to the queries that have a part and a first parameter. -/
structure Response where
  part : String
  param : Option String
  /-- Rows, or the text of an error. -/
  answer : Except String (List Row)

/-- The calls that a script lets fail, each with the text of the error. -/
structure Failures where
  openConnection : Option String := none
  begin : Option String := none
  commit : Option String := none
  rollback : Option String := none
  close : Option String := none
  version : Option String := none
  execute : Option String := none

/-- The answers of a scripted driver. -/
structure Script where
  responses : List Response
  affected : Nat
  version : Option String
  failures : Failures

namespace Script

/-- True when a response is meant for a query. -/
def Response.fits (response : Response) (sql : String) (params : List Param) : Bool :=
  Text.mentions (singleSpaced sql) response.part &&
    match response.param with
    | none => true
    | some expected => params.head? == some (.string expected)

/-- An answer that a failure replaces by an error of the driver. -/
def failingWith {α : Type} (failure : Option String) (value : α) : Except Error α :=
  match failure with
  | some message => .error (.database message none none)
  | none => .ok value

/-- The rows of the first response that fits, or none. -/
def rows (script : Script) (sql : String) (params : List Param) : Except Error (List Row) :=
  match script.responses.find? fun response => Response.fits response sql params with
  | some response => response.answer.mapError fun message => .database message none none
  | none => .ok []

/-- The answers of a script. -/
def answers (script : Script) : Answers where
  openConnection _ :=
    match script.failures.openConnection with
    | some message => .error (.connectParams message none)
    | none => .ok ()
  query := script.rows
  execute _ _ := failingWith script.failures.execute script.affected
  begin := failingWith script.failures.begin ()
  commit := failingWith script.failures.commit ()
  rollback := failingWith script.failures.rollback ()
  version := failingWith script.failures.version script.version
  close := failingWith script.failures.close ()

/-- The driver that answers from a script. -/
def driver (script : Script) : Driver := .steady script.answers

end Script

end SqlAccess
