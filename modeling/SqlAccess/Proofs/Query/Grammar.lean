import SqlAccess.Proofs.Lexical.Tokens

/-!
# Queries over one table

The part of SQL that asks for rows of one table: a condition that compares a column, an order and a
cut of the ordered rows. A column is compared with a parameter, or with the least or greatest value
that a column has in the first rows of a table. The three dialects differ in how they write a cut
and the place of a parameter, and a statement is read by the rules of one of them.

Each part has its tokens and a reader that takes it from the front of the tokens that are left. What
is not in this grammar has no reading here, nor has a statement with anything left behind its query.
Numbers are read as naturals, however large; that an engine may refuse one is not said here.
-/

namespace SqlAccess

open Lexical (Token)

/-- How two values are compared. -/
inductive Query.Comparison where
  | less
  | atMost
  | equal
  | different
  | atLeast
  | greater
deriving DecidableEq, Repr

/-- In which direction rows are ordered. -/
inductive Query.Direction where
  | ascending
  | descending
deriving DecidableEq, Repr

/-- A value made of those of a column. -/
inductive Query.Aggregate where
  | least
  | greatest
deriving DecidableEq, Repr

/-- An order of rows by one column. -/
structure Query.Order where
  column : String
  direction : Direction
deriving DecidableEq, Repr

/-- Which of the ordered rows are kept. -/
inductive Query.Cut where
  | whole
  | first (limit : Nat)
  | slice (skip limit : Nat)
deriving DecidableEq, Repr

/-- The rows of a subquery: one column of a table, under another name. -/
structure Query.Derived where
  column : String
  called : String
  table : TableRef
  order : Option Order
  cut : Cut
deriving DecidableEq, Repr

/-- What a column is compared with. -/
inductive Query.Operand where
  /-- The parameter with a number, counted from one. -/
  | parameter (number : Nat)
  /-- A value made of the one column of a subquery, which has a name. -/
  | aggregate (function : Aggregate) (rows : Derived) (called : String)
deriving DecidableEq, Repr

/-- A condition on the rows of a table. -/
structure Query.Condition where
  column : String
  comparison : Comparison
  operand : Operand
deriving DecidableEq, Repr

/-- A query for all columns of a table. -/
structure Query where
  table : TableRef
  condition : Option Query.Condition
  order : Option Query.Order
  cut : Query.Cut
deriving DecidableEq, Repr

namespace Query

section Tokens

/-- A word, of the language or a name without quotes. -/
def word (text : String) : Token := .of .word text.toList

/-- A name in quotes. -/
def named (text : String) : Token := .of .name text.toList

/-- A number. -/
def figure (n : Nat) : Token := .of .word (Decimal.ofNat n)

/-- What stands in front of the number of a parameter. -/
def placeMark : Dialect → List Char
  | .sqlite => ['?']
  | .postgres => ['$']
  | .sqlServer => ['@', 'P']

/-- The place of a parameter. -/
def place (dialect : Dialect) (number : Nat) : Token :=
  .of .place (placeMark dialect ++ Decimal.ofNat number)

/-- The tokens of a table. -/
def tableTokens (table : TableRef) : List Token :=
  match table.schema with
  | some schema => [named schema, .symbol '.', named table.name]
  | none => [named table.name]

/-- The tokens of a comparison. -/
def Comparison.tokens : Comparison → List Token
  | .less => [.symbol '<']
  | .atMost => [.symbol '<', .symbol '=']
  | .equal => [.symbol '=']
  | .different => [.symbol '<', .symbol '>']
  | .atLeast => [.symbol '>', .symbol '=']
  | .greater => [.symbol '>']

/-- The token of an aggregate. -/
def Aggregate.token : Aggregate → Token
  | .least => word "MIN"
  | .greatest => word "MAX"

/-- The tokens of an order. The ascending one is not named. -/
def Order.tokens (order : Order) : List Token :=
  match order.direction with
  | .ascending => [word "ORDER", word "BY", named order.column]
  | .descending => [word "ORDER", word "BY", named order.column, word "DESC"]

/-- How many rows are kept, where the dialect says it in front of the columns. -/
def Cut.top? (dialect : Dialect) : Cut → Option Nat
  | .first limit =>
    match dialect with
    | .sqlServer => some limit
    | .sqlite | .postgres => none
  | .whole | .slice _ _ => none

/-- The tokens in front of the columns. -/
def topTokens : Option Nat → List Token
  | some limit => [word "TOP", .symbol '(', figure limit, .symbol ')']
  | none => []

/-- The tokens of a cut that stand behind the order. -/
def Cut.closing (dialect : Dialect) : Cut → List Token
  | .whole => []
  | .first limit =>
    match dialect with
    | .sqlServer => []
    | .sqlite | .postgres => [word "LIMIT", figure limit]
  | .slice skip limit =>
    match dialect with
    | .sqlServer =>
      [word "OFFSET", figure skip, word "ROWS", word "FETCH", word "NEXT", figure limit,
        word "ROWS", word "ONLY"]
    | .sqlite | .postgres => [word "LIMIT", figure limit, word "OFFSET", figure skip]

/-- The tokens of the rows of a subquery. -/
def Derived.tokens (dialect : Dialect) (rows : Derived) : List Token :=
  word "SELECT" :: (topTokens (rows.cut.top? dialect) ++
    (named rows.column :: word "AS" :: word rows.called :: word "FROM" :: (tableTokens rows.table ++
      ((rows.order.map Order.tokens).getD [] ++ rows.cut.closing dialect))))

/-- The tokens of an operand. -/
def Operand.tokens (dialect : Dialect) : Operand → List Token
  | .parameter number => [place dialect number]
  | .aggregate function rows called =>
    .symbol '(' :: word "SELECT" :: function.token :: .symbol '(' :: word rows.called ::
      .symbol ')' :: word "FROM" :: .symbol '(' ::
        (rows.tokens dialect ++ [.symbol ')', word "AS", word called, .symbol ')'])

/-- The tokens of a condition. -/
def Condition.tokens (dialect : Dialect) (condition : Condition) : List Token :=
  word "WHERE" :: named condition.column ::
    (condition.comparison.tokens ++ condition.operand.tokens dialect)

/-- The tokens of a query. -/
def tokens (dialect : Dialect) (query : Query) : List Token :=
  word "SELECT" :: (topTokens (query.cut.top? dialect) ++
    (.symbol '*' :: word "FROM" :: (tableTokens query.table ++
      ((query.condition.map (Condition.tokens dialect)).getD [] ++
        ((query.order.map Order.tokens).getD [] ++ query.cut.closing dialect)))))

end Tokens

/-- A reader takes something from the front of the tokens that are left. -/
abbrev Reader := StateT (List Token) Option

namespace Reader

/-- True where a token is at the front, which is then taken. -/
def sees (token : Token) : Reader Bool
  | found :: rest => if found = token then some (true, rest) else some (false, found :: rest)
  | [] => some (false, [])

/-- Takes tokens, which must be there. -/
def expect : List Token → Reader Unit
  | [] => return ()
  | token :: others => do
    if ← sees token then expect others else failure

/-- A name in quotes. -/
def name : Reader String
  | .of .name content :: rest => some (String.ofList content, rest)
  | _ => none

/-- A name without quotes. -/
def bareName : Reader String
  | .of .word content :: rest => some (String.ofList content, rest)
  | _ => none

/-- A number in digits. -/
def number : Reader Nat
  | .of .word content :: rest => (Decimal.natValue? content).map fun n => (n, rest)
  | _ => none

/-- A table, with or without its schema. -/
def table : Reader TableRef := do
  let first ← name
  if ← sees (.symbol '.') then
    let second ← name
    return ⟨some first, second⟩
  else return ⟨none, first⟩

/-- A comparison. -/
def comparison : Reader Comparison
  | .symbol '<' :: .symbol '=' :: rest => some (.atMost, rest)
  | .symbol '<' :: .symbol '>' :: rest => some (.different, rest)
  | .symbol '<' :: rest => some (.less, rest)
  | .symbol '=' :: rest => some (.equal, rest)
  | .symbol '>' :: .symbol '=' :: rest => some (.atLeast, rest)
  | .symbol '>' :: rest => some (.greater, rest)
  | _ => none

/-- An aggregate. -/
def aggregate : Reader Aggregate := do
  if ← sees (word "MAX") then return .greatest
  else
    expect [word "MIN"]
    return .least

/-- An order, where there is one. Without a direction it is ascending. -/
def order : Reader (Option Order) := do
  if ← sees (word "ORDER") then
    expect [word "BY"]
    let column ← name
    if ← sees (word "DESC") then return some ⟨column, .descending⟩
    else
      let _ ← sees (word "ASC")
      return some ⟨column, .ascending⟩
  else return none

/-- How many rows SQL Server keeps, where it says so in front of the columns. -/
def top (dialect : Dialect) : Reader (Option Nat) :=
  match dialect with
  | .sqlServer => do
    if ← sees (word "TOP") then
      expect [.symbol '(']
      let limit ← number
      expect [.symbol ')']
      return some limit
    else return none
  | .sqlite | .postgres => return none

/-- The rows that are kept. SQL Server says so behind the order where there is one, and only where
it does not say so in front of the columns. -/
def cut (dialect : Dialect) (ordered : Bool) (top : Option Nat) : Reader Cut :=
  match dialect, top with
  | .sqlServer, some limit => return .first limit
  | .sqlServer, none => do
    if ← sees (word "OFFSET") then
      if ordered then
        let skip ← number
        expect [word "ROWS", word "FETCH", word "NEXT"]
        let limit ← number
        expect [word "ROWS", word "ONLY"]
        return .slice skip limit
      else failure
    else return .whole
  | .sqlite, _ | .postgres, _ => do
    if ← sees (word "LIMIT") then
      let limit ← number
      if ← sees (word "OFFSET") then
        let skip ← number
        return .slice skip limit
      else return .first limit
    else return .whole

/-- The rows of a subquery. -/
def derived (dialect : Dialect) : Reader Derived := do
  expect [word "SELECT"]
  let top ← top dialect
  let column ← name
  expect [word "AS"]
  let called ← bareName
  expect [word "FROM"]
  let table ← table
  let order ← order
  let cut ← cut dialect order.isSome top
  return { column, called, table, order, cut }

/-- The number of a parameter, from its place. -/
def parameter (dialect : Dialect) : Reader Nat
  | .of .place content :: rest =>
    (((placeMark dialect).isPrefixOf? content).bind Decimal.natValue?).map fun n => (n, rest)
  | _ => none

/-- What a column is compared with. An aggregate is over the column of its subquery. -/
def operand (dialect : Dialect) : Reader Operand := do
  if ← sees (.symbol '(') then
    expect [word "SELECT"]
    let function ← aggregate
    expect [.symbol '(']
    let column ← bareName
    expect [.symbol ')', word "FROM", .symbol '(']
    let rows ← derived dialect
    expect [.symbol ')', word "AS"]
    let called ← bareName
    expect [.symbol ')']
    if column = rows.called then return .aggregate function rows called else failure
  else
    let number ← parameter dialect
    return .parameter number

/-- A condition, where there is one. -/
def condition (dialect : Dialect) : Reader (Option Condition) := do
  if ← sees (word "WHERE") then
    let column ← name
    let comparison ← comparison
    let operand ← operand dialect
    return some { column, comparison, operand }
  else return none

/-- A query. -/
def query (dialect : Dialect) : Reader Query := do
  expect [word "SELECT"]
  let top ← top dialect
  expect [.symbol '*', word "FROM"]
  let table ← table
  let condition ← condition dialect
  let order ← order
  let cut ← cut dialect order.isSome top
  return { table, condition, order, cut }

end Reader

/-- The query that tokens are, where nothing else is among them. -/
def ofTokens? (dialect : Dialect) (tokens : List Token) : Option Query :=
  match (Reader.query dialect).run tokens with
  | some (query, []) => some query
  | _ => none

/-- The query that a statement is. -/
def ofText? (dialect : Dialect) (text : String) : Option Query :=
  (Lexical.lex dialect text.toList).bind (ofTokens? dialect)

end Query

end SqlAccess
