import SqlAccess.Page.Request

/-!
# Page plans

What is put behind `SELECT * FROM` and the table: a filter on the key, an order and
a window, each in the spelling of its dialect, and the parameters that the filter
binds. Identifiers are quoted, numbers are decimal, and a key value is bound and
never written.
-/

namespace SqlAccess.Page

/-- The first rows of a subquery, in the spelling of a dialect. -/
inductive Leading where
  /-- `LIMIT n` behind the order. -/
  | limit (rows : UInt64)
  /-- `TOP (n)` before the columns. -/
  | top (rows : UInt64)
deriving DecidableEq, Repr

/-- What a key must be greater than. -/
inductive Bound where
  /-- The value bound to a placeholder. -/
  | parameter (place : String)
  /-- The largest key among the first rows of a table, in the order of the key. -/
  | largestKey (table : String) (leading : Leading)
deriving DecidableEq, Repr

/-- The rows that a page keeps, in the spelling of a dialect. -/
inductive Window where
  /-- `LIMIT` and `OFFSET`. -/
  | limitOffset (limit skip : UInt64)
  /-- `OFFSET` and `FETCH NEXT`. -/
  | offsetFetch (skip limit : UInt64)
deriving DecidableEq, Repr

/-- Filter, order and window over a quoted key. -/
structure Clauses where
  key : String
  bound : Option Bound
  window : Window
deriving DecidableEq, Repr

/-- The plan of a page. Without clauses it is the whole table. -/
structure Plan where
  clauses : Option Clauses
  params : List Param
deriving DecidableEq, Repr

/-- The plan that adds nothing. -/
def Plan.empty : Plan := ⟨none, []⟩

/-- The subquery for the largest key among the first rows. -/
def Bound.text (key : String) : Bound → String
  | .parameter place => place
  | .largestKey table (.limit rows) =>
    "(SELECT MAX(__page_key) FROM (SELECT " ++ key ++ " AS __page_key FROM " ++ table ++
      " ORDER BY " ++ key ++ " LIMIT " ++ Decimal.natText rows.toNat ++ ") AS __page_boundary)"
  | .largestKey table (.top rows) =>
    "(SELECT MAX(__page_key) FROM (SELECT TOP (" ++ Decimal.natText rows.toNat ++ ") " ++ key ++
      " AS __page_key FROM " ++ table ++ " ORDER BY " ++ key ++ ") AS __page_boundary)"

/-- The window as it is written. -/
def Window.text : Window → String
  | .limitOffset limit skip =>
    "LIMIT " ++ Decimal.natText limit.toNat ++ " OFFSET " ++ Decimal.natText skip.toNat
  | .offsetFetch skip limit =>
    "OFFSET " ++ Decimal.natText skip.toNat ++ " ROWS FETCH NEXT " ++
      Decimal.natText limit.toNat ++ " ROWS ONLY"

namespace Plan

/-- The filter as it is written. -/
def whereText (plan : Plan) : Option String := do
  let clauses ← plan.clauses
  let bound ← clauses.bound
  return "WHERE " ++ clauses.key ++ " > " ++ bound.text clauses.key

/-- The order as it is written. -/
def orderText (plan : Plan) : Option String :=
  plan.clauses.map fun clauses => "ORDER BY " ++ clauses.key

/-- The window as it is written. -/
def limitText (plan : Plan) : Option String :=
  plan.clauses.map fun clauses => clauses.window.text

/-- The clauses in the order of the statement, each behind a blank. -/
def fragment (plan : Plan) : String :=
  String.join ([plan.whereText, plan.orderText, plan.limitText].filterMap fun clause =>
    clause.map (" " ++ ·))

/-- True when nothing is added to the statement. -/
def isEmpty (plan : Plan) : Bool := plan.clauses.isNone

end Plan

/-- The window of a dialect. -/
def window (dialect : Dialect) (limit skip : UInt64) : Window :=
  match dialect with
  | .sqlServer => .offsetFetch skip limit
  | .sqlite | .postgres => .limitOffset limit skip

/-- The first rows in the spelling of a dialect. -/
def leading (dialect : Dialect) (rows : UInt64) : Leading :=
  match dialect with
  | .sqlServer => .top rows
  | .sqlite | .postgres => .limit rows

/-- The bound of a keyset page and what it binds: the given key, else the last key of the rows
that are skipped, and nothing where none are. -/
def keysetBound (dialect : Dialect) (table : String) (after : Option Param) (skip : UInt64) :
    Option Bound × List Param :=
  match after with
  | some key => (some (.parameter (dialect.placeholder 1)), [key])
  | none =>
    if skip = 0 then (none, [])
    else (some (.largestKey table (leading dialect skip)), [])

/-- The plan of a page over a table that is quoted already. -/
def plan (dialect : Dialect) (request : Request) (table : String) : Except Refusal Plan :=
  match request.validated with
  | .error refusal => .error refusal
  | .ok skip =>
    let key := dialect.quoteIdentifier (Text.trimmed request.orderingField)
    match request.mode with
    | .none => .ok .empty
    | .limitOffset => .ok ⟨some ⟨key, none, window dialect request.limit skip⟩, []⟩
    | .keyset =>
      let (bound, params) := keysetBound dialect table request.after skip
      .ok ⟨some ⟨key, bound, window dialect request.limit 0⟩, params⟩

end SqlAccess.Page
