import SqlAccess.Proofs.Query.Grammar

/-!
# Queries read back

The tokens of a query name its table, its condition, its order and its cut one behind the other, and
each of the last three may be left out. Main statement: whatever the names in a query are, its
tokens are read as the query, so that nothing of it is lost on the way through a statement.

A part ends where something stands that cannot be taken for more of it. What can stand there is told
by the first tokens of the parts behind it.
-/

namespace SqlAccess.Query

open Lexical (Token)

/-- A cut that the dialect can write: SQL Server cuts a slice only out of rows in an order. -/
def Cut.Fits (dialect : Dialect) (order : Option Order) : Cut → Prop
  | .slice _ _ => dialect = .sqlServer → order.isSome = true
  | .whole | .first _ => True

/-- An operand whose subquery can be written. -/
def Operand.Fits (dialect : Dialect) : Operand → Prop
  | .parameter _ => True
  | .aggregate _ rows _ => rows.cut.Fits dialect rows.order

/-- A query that the dialect can write. -/
structure Fits (dialect : Dialect) (query : Query) : Prop where
  operand : ∀ condition ∈ query.condition, condition.operand.Fits dialect
  cut : query.cut.Fits dialect query.order

section Reread

variable {dialect : Dialect} {ends rest : List Token}

/-- Words are told apart by their texts. -/
@[simp]
theorem word_inj {first second : String} : word first = word second ↔ first = second := by
  simp [word, String.toList_inj]

/-- No word is a sign. -/
@[simp]
theorem word_ne_symbol (text : String) (c : Char) : word text ≠ .symbol c := nofun

/-- No word is a name in quotes. -/
@[simp]
theorem word_ne_named (text name : String) : word text ≠ named name := nofun

/-- No sign is a word. -/
@[simp]
theorem symbol_ne_word (c : Char) (text : String) : .symbol c ≠ word text := nofun

/-- Tokens that are at their end or go on with one of some tokens. -/
def Stops (ends tokens : List Token) : Prop := ∀ token ∈ tokens.head?, token ∈ ends

/-- There may be nothing. -/
theorem stops_nil : Stops ends [] := nofun

/-- There may be one of the tokens. -/
theorem stops_cons {token : Token} (member : token ∈ ends) : Stops ends (token :: rest) := by
  rintro _ ⟨⟩
  exact member

/-- Behind a part that may be empty stands what the part or the rest begins with. -/
theorem Stops.append {begins tokens : List Token} (part : Stops begins tokens)
    (behind : Stops ends rest) : Stops (begins ++ ends) (tokens ++ rest) := by
  cases tokens with
  | nil => exact fun token first => List.mem_append_right _ (behind token first)
  | cons token others => exact stops_cons (List.mem_append_left _ (part token rfl))

/-- An order begins with its word. -/
theorem stops_order (order : Option Order) :
    Stops [word "ORDER"] ((order.map Order.tokens).getD []) := by
  cases order with
  | none => exact stops_nil
  | some order =>
    obtain ⟨column, direction⟩ := order
    cases direction <;> exact stops_cons List.mem_cons_self

/-- A condition begins with its word. -/
theorem stops_condition (dialect : Dialect) (condition : Option Condition) :
    Stops [word "WHERE"] ((condition.map (Condition.tokens dialect)).getD []) := by
  cases condition with
  | none => exact stops_nil
  | some condition => exact stops_cons List.mem_cons_self

/-- What stands behind the order begins with one of two words. -/
theorem stops_closing (dialect : Dialect) (cut : Cut) :
    Stops [word "LIMIT", word "OFFSET"] (cut.closing dialect) := by
  cases dialect <;> cases cut <;> first | exact stops_nil | exact stops_cons (by simp)

namespace Reader

/-- A token that is there is seen and taken. -/
@[simp]
theorem run_sees (token : Token) (rest : List Token) :
    (sees token).run (token :: rest) = some (true, rest) := by
  simp [sees, StateT.run]

/-- A token is not seen where others stand. -/
theorem run_sees_absent {token : Token} (stops : Stops ends rest) (apart : token ∉ ends) :
    (sees token).run rest = some (false, rest) := by
  cases rest with
  | nil => rfl
  | cons found rest =>
    have different : found ≠ token := by
      rintro rfl
      exact apart (stops found rfl)
    simp [sees, StateT.run, different]

/-- No more tokens need be there. -/
@[simp]
theorem run_expect_nil (rest : List Token) : (expect []).run rest = some ((), rest) := rfl

/-- A token that is there is taken, and the others are looked for behind it. -/
@[simp]
theorem run_expect_cons (token : Token) (others rest : List Token) :
    (expect (token :: others)).run (token :: rest) = (expect others).run rest := by
  simp [expect]

/-- A name is read. -/
@[simp]
theorem run_name (text : String) (rest : List Token) :
    name.run (named text :: rest) = some (text, rest) := by
  simp [name, named, StateT.run]

/-- A name without quotes is read. -/
@[simp]
theorem run_bare_name (text : String) (rest : List Token) :
    bareName.run (word text :: rest) = some (text, rest) := by
  simp [bareName, word, StateT.run]

/-- A number is read. -/
@[simp]
theorem run_number (n : Nat) (rest : List Token) :
    number.run (figure n :: rest) = some (n, rest) := by
  simp [number, figure, StateT.run, Decimal.nat_value?_of_nat]

/-- A table is read. -/
theorem run_table (subject : TableRef) (stops : Stops ends rest)
    (apart : Token.symbol '.' ∉ ends) :
    table.run (tableTokens subject ++ rest) = some (subject, rest) := by
  obtain ⟨schema, text⟩ := subject
  cases schema with
  | none => simp [table, tableTokens, run_sees_absent stops apart]
  | some schema => simp [table, tableTokens]

/-- A comparison is read in front of anything but a sign that goes on with it. -/
theorem run_comparison (kind : Comparison) (stops : Stops ends rest)
    (notEqual : Token.symbol '=' ∉ ends) (notGreater : Token.symbol '>' ∉ ends) :
    comparison.run (kind.tokens ++ rest) = some (kind, rest) := by
  cases rest with
  | nil => cases kind <;> rfl
  | cons token rest =>
    have member := stops token rfl
    have noEqual : token ≠ .symbol '=' := fun same => notEqual (same ▸ member)
    have noGreater : token ≠ .symbol '>' := fun same => notGreater (same ▸ member)
    cases kind with
    | less => simp [Comparison.tokens, StateT.run, comparison, noEqual, noGreater]
    | greater => simp [Comparison.tokens, StateT.run, comparison, noEqual]
    | atMost | equal | different | atLeast => rfl

/-- An aggregate is read. -/
theorem run_aggregate (function : Aggregate) (rest : List Token) :
    aggregate.run (function.token :: rest) = some (function, rest) := by
  cases function with
  | least =>
    have absent : (sees (word "MAX")).run (word "MIN" :: rest) = some (false, word "MIN" :: rest) :=
      run_sees_absent (stops_cons (List.mem_singleton_self _)) (by simp)
    simp [aggregate, Aggregate.token, absent]
  | greatest => simp [aggregate, Aggregate.token]

/-- An order is read, or that there is none. -/
theorem run_order (given : Option Order) (stops : Stops ends rest) (noOrder : word "ORDER" ∉ ends)
    (noDirection : word "ASC" ∉ ends ∧ word "DESC" ∉ ends) :
    order.run ((given.map Order.tokens).getD [] ++ rest) = some (given, rest) := by
  cases given with
  | none => simp [order, run_sees_absent stops noOrder]
  | some given =>
    obtain ⟨column, direction⟩ := given
    cases direction with
    | ascending =>
      simp [order, Order.tokens, run_sees_absent stops noDirection.1,
        run_sees_absent stops noDirection.2]
    | descending => simp [order, Order.tokens]

/-- What stands in front of the columns is read. -/
theorem run_top (dialect : Dialect) (given : Cut) (stops : Stops ends rest)
    (apart : word "TOP" ∉ ends) :
    (top dialect).run (topTokens (given.top? dialect) ++ rest) =
      some (given.top? dialect, rest) := by
  have absent := run_sees_absent stops apart
  cases dialect <;> cases given <;> simp [top, topTokens, Cut.top?, absent]

/-- A cut is read that the dialect can write. -/
theorem run_cut {given : Cut} {placed : Option Order} (fits : given.Fits dialect placed)
    (stops : Stops ends rest) (noLimit : word "LIMIT" ∉ ends)
    (noOffset : word "OFFSET" ∉ ends) :
    (cut dialect placed.isSome (given.top? dialect)).run (given.closing dialect ++ rest) =
      some (given, rest) := by
  have limitAbsent := run_sees_absent stops noLimit
  have offsetAbsent := run_sees_absent stops noOffset
  cases given with
  | whole => cases dialect <;> simp [cut, Cut.top?, Cut.closing, limitAbsent, offsetAbsent]
  | first limit => cases dialect <;> simp [cut, Cut.top?, Cut.closing, offsetAbsent]
  | slice skip limit =>
    cases dialect with
    | sqlServer =>
      have ordered : placed.isSome = true := fits rfl
      simp [cut, Cut.top?, Cut.closing, ordered]
    | sqlite | postgres => simp [cut, Cut.closing]

/-- The rows of a subquery are read. -/
theorem run_derived {rows : Derived} (fits : rows.cut.Fits dialect rows.order)
    (rest : List Token) :
    (derived dialect).run (rows.tokens dialect ++ .symbol ')' :: rest) =
      some (rows, .symbol ')' :: rest) := by
  have atEnd : Stops [.symbol ')'] (.symbol ')' :: rest) := stops_cons List.mem_cons_self
  have atCut := (stops_closing dialect rows.cut).append atEnd
  have atOrder := (stops_order rows.order).append atCut
  have atColumn (others : List Token) :
      Stops [named rows.column] (named rows.column :: others) := stops_cons List.mem_cons_self
  simp [derived, Derived.tokens, run_top dialect rows.cut (atColumn _),
    run_table rows.table atOrder, run_order rows.order atCut, run_cut fits atEnd]

/-- The place of a parameter is read as its number. -/
theorem run_parameter (dialect : Dialect) (number : Nat) (rest : List Token) :
    (parameter dialect).run (place dialect number :: rest) = some (number, rest) := by
  have behindMark : (placeMark dialect).isPrefixOf? (placeMark dialect ++ Decimal.ofNat number) =
      some (Decimal.ofNat number) := by
    cases dialect <;> rfl
  simp [parameter, place, StateT.run, behindMark, Decimal.nat_value?_of_nat]

/-- An operand is read. -/
theorem run_operand {given : Operand} (fits : given.Fits dialect) (rest : List Token) :
    (operand dialect).run (given.tokens dialect ++ rest) = some (given, rest) := by
  cases given with
  | parameter number =>
    have atPlace : Stops [place dialect number] (place dialect number :: rest) :=
      stops_cons List.mem_cons_self
    have noBracket : (sees (.symbol '(')).run (place dialect number :: rest) =
        some (false, place dialect number :: rest) := run_sees_absent atPlace (by simp [place])
    simp [operand, Operand.tokens, noBracket, run_parameter]
  | aggregate function rows called =>
    simp [operand, Operand.tokens, run_aggregate, run_derived fits]

/-- A condition is read, or that there is none. -/
theorem run_condition {given : Option Condition}
    (fits : ∀ condition ∈ given, condition.operand.Fits dialect) (stops : Stops ends rest)
    (apart : word "WHERE" ∉ ends) :
    (condition dialect).run ((given.map (Condition.tokens dialect)).getD [] ++ rest) =
      some (given, rest) := by
  cases given with
  | none => simp [condition, run_sees_absent stops apart]
  | some given =>
    obtain ⟨column, kind, compared⟩ := given
    have atOperand :
        Stops ((compared.tokens dialect).take 1) (compared.tokens dialect ++ rest) := by
      cases compared <;> exact stops_cons (by simp [Operand.tokens])
    have read := run_comparison kind atOperand
      (by cases compared <;> simp [Operand.tokens, place])
      (by cases compared <;> simp [Operand.tokens, place])
    simp [condition, Condition.tokens, read, run_operand (fits _ rfl)]

/-- A query is read that the dialect can write. -/
theorem run_query {given : Query} (fits : given.Fits dialect) :
    (query dialect).run (given.tokens dialect) = some (given, []) := by
  have atCut := stops_closing dialect given.cut
  have atOrder := (stops_order given.order).append atCut
  have atCondition := (stops_condition dialect given.condition).append atOrder
  have atColumns (others : List Token) : Stops [.symbol '*'] (.symbol '*' :: others) :=
    stops_cons List.mem_cons_self
  have nothing : Stops [] ([] : List Token) := stops_nil
  have cutAtEnd := run_cut fits.cut nothing nofun nofun
  rw [List.append_nil] at cutAtEnd
  simp [query, Query.tokens, run_top dialect given.cut (atColumns _),
    run_table given.table atCondition, run_condition fits.operand atOrder,
    run_order given.order atCut, cutAtEnd]

end Reader

/-- The tokens of a query are read as the query, whatever the names in it are, where the dialect can
write the query at all.

Proof: each part is read back in front of anything that cannot be taken for more of it. What stands
behind a part is told from the first tokens that the parts behind it have, so the parts are put
together from the end: the cut, the order, the condition and the table. -/
theorem of_tokens?_tokens {query : Query} (fits : query.Fits dialect) :
    ofTokens? dialect (query.tokens dialect) = some query := by
  rw [ofTokens?, Reader.run_query fits]

-- Another comparison, another direction and no cut are another query.
example :
    ofText? .postgres "SELECT * FROM \"users\" WHERE \"id\" >= $1 ORDER BY \"id\" DESC" =
      some ⟨⟨none, "users"⟩, some ⟨"id", .atLeast, .parameter 1⟩,
        some ⟨"id", .descending⟩, .whole⟩ := by
  decide +kernel

end Reread

end SqlAccess.Query
