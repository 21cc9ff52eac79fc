import Mathlib.Order.MinMax
import SqlAccess.Param
import SqlAccess.Proofs.Query.Grammar

/-!
# What queries mean

What an engine makes of a query is said here for rows of any kind and keys in any total order. NULL
is the key that is missing. A comparison with NULL holds of no row, the least and the greatest value
look past NULL and are NULL over no value at all, and an order says nothing about where NULL goes
nor how rows with equal keys are arranged: an engine may choose. So a query selects rows when some
such choice leads to them, and a statement may be answered with what the query selects that it is
read as.
-/

namespace SqlAccess.Query

/-- What an engine knows of the names and values in a statement. -/
structure Database (R K : Type) where
  rows : TableRef → List R
  /-- The key of a row in the column with a name. -/
  cell : String → R → Option K
  /-- The key for which a bound value stands. -/
  value : Param → Option K

section Meaning

variable {R K : Type} [LinearOrder K]

/-- Whether two keys that are there compare as it is said. -/
def Comparison.relates : Comparison → K → K → Bool
  | .less, key, other => decide (key < other)
  | .atMost, key, other => decide (key ≤ other)
  | .equal, key, other => decide (key = other)
  | .different, key, other => decide (key ≠ other)
  | .atLeast, key, other => decide (other ≤ key)
  | .greater, key, other => decide (other < key)

/-- A comparison holds of keys that are both there. -/
def Comparison.holds (comparison : Comparison) : Option K → Option K → Bool
  | some key, some other => comparison.relates key other
  | _, _ => false

/-- The least or the greatest of the keys that are there. -/
def Aggregate.value (function : Aggregate) (cells : List (Option K)) : Option K :=
  match function with
  | .least => (cells.filterMap id).min?
  | .greatest => (cells.filterMap id).max?

/-- How a key that comes first is related to one that comes later. -/
def Direction.admits : Direction → K → K → Prop
  | .ascending, earlier, later => earlier ≤ later
  | .descending, earlier, later => later ≤ earlier

/-- An arrangement of rows by their keys. -/
def Arranged (direction : Direction) (cell : R → Option K) (rows arranged : List R) : Prop :=
  arranged.Perm rows ∧ arranged.Pairwise fun earlier later =>
    ∀ first ∈ cell earlier, ∀ second ∈ cell later, direction.admits first second

/-- An order that may be left out. Without it the rows come as the engine likes. -/
def Ordered (database : Database R K) (order : Option Order) (rows ordered : List R) : Prop :=
  match order with
  | none => ordered.Perm rows
  | some order => Arranged order.direction (database.cell order.column) rows ordered

/-- The rows of a cut. -/
def Cut.keep : Cut → List R → List R
  | .whole, rows => rows
  | .first limit, rows => rows.take limit
  | .slice skip limit, rows => (rows.drop skip).take limit

/-- A column that a subquery may have. -/
def Derived.Lists (rows : Derived) (database : Database R K) (cells : List (Option K)) : Prop :=
  ∃ ordered, Ordered database rows.order (database.rows rows.table) ordered ∧
    cells = (rows.cut.keep ordered).map (database.cell rows.column)

/-- What an operand may stand for, with parameters bound in their order. -/
def Operand.Means (database : Database R K) (params : List Param) : Operand → Option K → Prop
  | .parameter number, key =>
    ∃ index param, number = index + 1 ∧ params[index]? = some param ∧
      key = database.value param
  | .aggregate function rows _, key =>
    ∃ cells, rows.Lists database cells ∧ key = function.value cells

/-- The rows that a condition may leave. Without a condition these are all. -/
def Filtered (database : Database R K) (params : List Param) (condition : Option Condition)
    (rows kept : List R) : Prop :=
  match condition with
  | none => kept = rows
  | some condition =>
    ∃ key, condition.operand.Means database params key ∧
      kept = rows.filter fun row =>
        condition.comparison.holds (database.cell condition.column row) key

/-- The rows that a query may select: those that the condition leaves, in the order, cut. -/
def Selects (query : Query) (database : Database R K) (params : List Param) (page : List R) :
    Prop :=
  ∃ kept ordered, Filtered database params query.condition (database.rows query.table) kept ∧
    Ordered database query.order kept ordered ∧ page = query.cut.keep ordered

/-- The rows with which a statement may be answered. One that cannot be read has no answer. -/
def Answers (database : Database R K) (dialect : Dialect) (text : String) (params : List Param)
    (page : List R) : Prop :=
  ∃ query, ofText? dialect text = some query ∧ query.Selects database params page

/-- A statement that is read as a query is answered as the query. -/
theorem answers_iff {database : Database R K} {dialect : Dialect} {text : String}
    {params : List Param} {query : Query} (read : ofText? dialect text = some query)
    (page : List R) :
    Answers database dialect text params page ↔ query.Selects database params page := by
  constructor
  · rintro ⟨other, otherRead, selected⟩
    cases read.symm.trans otherRead
    exact selected
  · intro selected
    exact ⟨query, read, selected⟩

end Meaning

end SqlAccess.Query
