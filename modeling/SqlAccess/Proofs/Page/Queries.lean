import SqlAccess.Proofs.Page.Statements
import SqlAccess.Proofs.Query.Reread

/-!
# The query that a page is

What a page asks for is said here without a text: the table, a condition on the key where there is
one, the order and the cut. Main statement: the statement of every request that is planned is read
as this query, whatever the dialect and the names are.

The statement is a template that is filled in, and so its tokens are known; they are compared with
those of the query part by part.
-/

namespace SqlAccess.Page

open Lexical (Slot Template Token outside)
open Query (word named figure place)

/-- The condition on the key: behind the key that is given, else behind the greatest key of the rows
to skip, and none where there are none. -/
def keyCondition (table : TableRef) (key : String) (after : Option Param) (skip : UInt64) :
    Option Query.Condition :=
  match after with
  | some _ => some ⟨key, .greater, .parameter 1⟩
  | none =>
    if skip = 0 then none
    else some ⟨key, .greater, .aggregate .greatest
      ⟨key, "__page_key", table, some ⟨key, .ascending⟩, .first skip.toNat⟩
      "__page_boundary"⟩

/-- The query of a page that skips some number of rows. -/
def pageQuery (table : TableRef) (request : Request) (skip : UInt64) : Query :=
  let key := Text.trimmed request.orderingField
  match request.mode with
  | .none => ⟨table, none, none, .whole⟩
  | .limitOffset =>
    ⟨table, none, some ⟨key, .ascending⟩, .slice skip.toNat request.limit.toNat⟩
  | .keyset =>
    ⟨table, keyCondition table key request.after skip, some ⟨key, .ascending⟩,
      .slice 0 request.limit.toNat⟩

section Tokens

variable {dialect : Dialect} {table : TableRef} {request : Request} {limit skip : UInt64}

/-- The tokens of the fixed texts. -/
theorem outside_fixed (dialect : Dialect) :
    outside dialect "SELECT * FROM " = [word "SELECT", .symbol '*', word "FROM"] ∧
    outside dialect "." = [.symbol '.'] ∧
    outside dialect " WHERE " = [word "WHERE"] ∧
    outside dialect " > " = [.symbol '>'] ∧
    outside dialect " > (SELECT MAX(__page_key) FROM (SELECT " =
      [.symbol '>', .symbol '(', word "SELECT", word "MAX", .symbol '(', word "__page_key",
        .symbol ')', word "FROM", .symbol '(', word "SELECT"] ∧
    outside dialect " > (SELECT MAX(__page_key) FROM (SELECT TOP (" =
      [.symbol '>', .symbol '(', word "SELECT", word "MAX", .symbol '(', word "__page_key",
        .symbol ')', word "FROM", .symbol '(', word "SELECT", word "TOP", .symbol '('] ∧
    outside dialect ") " = [.symbol ')'] ∧
    outside dialect " AS __page_key FROM " = [word "AS", word "__page_key", word "FROM"] ∧
    outside dialect ") AS __page_boundary) ORDER BY " =
      [.symbol ')', word "AS", word "__page_boundary", .symbol ')', word "ORDER", word "BY"] ∧
    outside dialect " ORDER BY " = [word "ORDER", word "BY"] ∧
    outside dialect " LIMIT " = [word "LIMIT"] ∧
    outside dialect " OFFSET " = [word "OFFSET"] ∧
    outside dialect " ROWS FETCH NEXT " = [word "ROWS", word "FETCH", word "NEXT"] := by
  cases dialect <;> decide +kernel

/-- The tokens of fixed texts and slots. -/
def slotted (dialect : Dialect) (table : TableRef) (request : Request)
    (pieces : List (String × Slot)) : List Token :=
  pieces.flatMap fun piece =>
    outside dialect piece.1 ++ [piece.2.token dialect (partName table request)]

/-- There is no token where there is no slot. -/
theorem slotted_nil : slotted dialect table request [] = [] := rfl

/-- The tokens of a fixed text and its slot stand in front of the others. -/
theorem slotted_cons (fixed : String) (slot : Slot) (rest : List (String × Slot)) :
    slotted dialect table request ((fixed, slot) :: rest) =
      outside dialect fixed ++ (slot.token dialect (partName table request) ::
        slotted dialect table request rest) := by
  simp [slotted]

/-- The tokens of fixed texts and slots stand one behind the other. -/
theorem slotted_append (first second : List (String × Slot)) :
    slotted dialect table request (first ++ second) =
      slotted dialect table request first ++ slotted dialect table request second :=
  List.flatMap_append

/-- The ordering field is the key. -/
theorem token_field : (Slot.named .field).token dialect (partName table request) =
    named (Text.trimmed request.orderingField) := rfl

/-- A number is written in digits. -/
theorem token_number (n : Nat) :
    (Slot.number n).token dialect (partName table request) = figure n := rfl

/-- A place is written as the dialect numbers them. -/
theorem token_place (index : Nat) :
    (Slot.place index).token dialect (partName table request) = place dialect index := by
  cases dialect <;> simp [Slot.token, place, Query.placeMark, Dialect.placeholder, Decimal.natText]

/-- A table behind a fixed text. -/
theorem slotted_table_pieces (fixed : String) :
    slotted dialect table request (tablePieces fixed table.schema.isSome) =
      outside dialect fixed ++ Query.tableTokens table := by
  obtain ⟨schema, name⟩ := table
  cases schema <;>
    simp [slotted, tablePieces, Slot.token, partName, Query.tableTokens, named,
      outside_fixed dialect]

/-- The tokens of a window. -/
theorem slotted_window_pieces :
    slotted dialect table request (windowPieces dialect limit skip) ++
        (Lexical.lex dialect (windowEnding dialect).toList).getD [] =
      (Query.Cut.slice skip.toNat limit.toNat).closing dialect := by
  cases dialect with
  | sqlServer =>
    have ending : Lexical.lex .sqlServer (windowEnding .sqlServer).toList =
        some [word "ROWS", word "ONLY"] := by decide +kernel
    simp [windowPieces, Query.Cut.closing, slotted_cons, slotted_nil, token_number, ending,
      outside_fixed .sqlServer]
  | sqlite | postgres =>
    simp [windowPieces, Query.Cut.closing, slotted_cons, slotted_nil, token_number, windowEnding,
      outside_fixed, Lexical.lex, Lexical.lexFrom, Lexical.run, Lexical.finish]

/-- The tokens of the condition on the rows to skip and of the order. -/
theorem slotted_boundary_pieces (notFirst : skip ≠ 0) :
    slotted dialect table request (boundaryPieces dialect table.schema.isSome skip) =
      ((keyCondition table (Text.trimmed request.orderingField) none skip).map
          (Query.Condition.tokens dialect)).getD [] ++
        Query.Order.tokens ⟨Text.trimmed request.orderingField, .ascending⟩ := by
  cases dialect <;>
    simp [boundaryPieces, keyCondition, notFirst, slotted_cons, slotted_nil, slotted_append,
      slotted_table_pieces, token_field, token_number, outside_fixed, Query.Condition.tokens,
      Query.Comparison.tokens, Query.Operand.tokens, Query.Derived.tokens, Query.Cut.top?,
      Query.topTokens, Query.Cut.closing, Query.Order.tokens, Query.Aggregate.token]

/-- The tokens of the condition and of the order. -/
theorem slotted_key_pieces :
    slotted dialect table request
        (keyPieces dialect table.schema.isSome request.after.isSome skip) =
      ((keyCondition table (Text.trimmed request.orderingField) request.after skip).map
          (Query.Condition.tokens dialect)).getD [] ++
        Query.Order.tokens ⟨Text.trimmed request.orderingField, .ascending⟩ := by
  cases request.after with
  | some key =>
    simp [keyPieces, keyCondition, slotted_cons, slotted_nil, token_field, token_place,
      outside_fixed dialect, Query.Condition.tokens, Query.Comparison.tokens, Query.Operand.tokens,
      Query.Order.tokens]
  | none =>
    by_cases first : skip = 0
    · simp [keyPieces, keyCondition, first, slotted_cons, slotted_nil, token_field,
        outside_fixed dialect, Query.Order.tokens]
    · rw [Option.isSome_none, keyPieces, if_neg Bool.false_ne_true, if_neg first]
      exact slotted_boundary_pieces first

/-- A slice says nothing in front of the columns. -/
theorem top_tokens_slice (skip limit : Nat) :
    Query.topTokens ((Query.Cut.slice skip limit).top? dialect) = [] := rfl

/-- The tokens of a template are those of the query. -/
theorem tokens_template :
    (template dialect table.schema.isSome request.after.isSome request.mode request.limit
        skip).tokens dialect (partName table request) =
      (pageQuery table request skip).tokens dialect := by
  have tokens_mk (pieces : List (String × Slot)) (ending : String) :
      (Template.mk pieces ending).tokens dialect (partName table request) =
        slotted dialect table request pieces ++ (Lexical.lex dialect ending.toList).getD [] := rfl
  cases mode : request.mode with
  | none =>
    have nothing : Lexical.lex dialect [] = some [] := rfl
    simp [template, pageQuery, mode, tokens_mk, slotted_table_pieces, nothing,
      outside_fixed dialect, Query.tokens, Query.topTokens, Query.Cut.top?, Query.Cut.closing]
  | limitOffset =>
    simp [template, pageQuery, mode, tokens_mk, slotted_append, slotted_cons, slotted_table_pieces,
      slotted_window_pieces, token_field, outside_fixed dialect, Query.tokens, top_tokens_slice,
      Query.Order.tokens]
  | keyset =>
    simp [template, pageQuery, mode, tokens_mk, slotted_append, slotted_table_pieces,
      slotted_key_pieces, slotted_window_pieces, outside_fixed dialect, Query.tokens,
      top_tokens_slice]

end Tokens

section Statements

variable {dialect : Dialect} {table : TableRef} {request : Request} {planned : Plan} {skip : UInt64}

/-- Every dialect can write the query of a page: where a slice is cut, there is an order. -/
theorem page_query_fits : (pageQuery table request skip).Fits dialect := by
  cases mode : request.mode with
  | none =>
    rw [pageQuery, mode]
    exact ⟨nofun, trivial⟩
  | limitOffset =>
    rw [pageQuery, mode]
    exact ⟨nofun, fun _ => rfl⟩
  | keyset =>
    rw [pageQuery, mode]
    refine ⟨fun condition given => ?_, fun _ => rfl⟩
    have shape : condition.operand.Fits dialect := by
      simp only [keyCondition] at given
      split at given
      · cases given
        trivial
      · split at given
        · cases given
        · cases given
          trivial
    exact shape

/-- The statement of a page is read as the query of the page, for all names in it and every limit
and position. -/
theorem of_text?_statement (valid : request.validated = .ok skip)
    (accepted : plan dialect request (dialect.quoteTable table) = .ok planned) :
    Query.ofText? dialect (statement dialect table planned) =
      some (pageQuery table request skip) := by
  have joined := template_joined dialect table.schema.isSome request.after.isSome request.mode
    request.limit skip
  rw [Query.ofText?, to_list_statement valid accepted, Lexical.lex_text joined, tokens_template]
  exact Query.of_tokens?_tokens page_query_fits

end Statements

end SqlAccess.Page
