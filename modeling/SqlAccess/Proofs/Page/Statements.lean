import SqlAccess.Catalog
import SqlAccess.Proofs.Lexical.Template
import SqlAccess.Proofs.Page.Planned

/-!
# The statements of pages

A page is read by one statement over a quoted table, with a quoted key in up to four places of it
and the table in up to two. Main statement: whatever the names and the key value are, two requests
that agree in everything else lead to the same tokens, but for the names; and a key value is bound
to the one place there is for it and never written.

Each statement is a template that depends on neither the names nor the key value, only on whether
there is a schema and whether there is a value.
-/

namespace SqlAccess.Page

open Lexical (Part Slot Template Token Parallel)

/-- The statement of a page. -/
def statement (dialect : Dialect) (table : TableRef) (planned : Plan) : String :=
  "SELECT * FROM " ++ dialect.quoteTable table ++ planned.fragment

/-- The names in the statement of a page. A table without a schema stands there by its name only. -/
def partName (table : TableRef) (request : Request) : Part → String
  | .schema => table.schema.getD table.name
  | .table => table.name
  | .field => Text.trimmed request.orderingField

section Templates

/-- A table behind a fixed text, with or without a schema. -/
def tablePieces (fixed : String) (qualified : Bool) : List (String × Slot) :=
  if qualified then [(fixed, .named .schema), (".", .named .table)]
  else [(fixed, .named .table)]

/-- The condition that the key is behind those of the rows to skip, and the order. -/
def boundaryPieces (dialect : Dialect) (qualified : Bool) (skip : UInt64) :
    List (String × Slot) :=
  match dialect with
  | .sqlServer =>
    [(" WHERE ", .named .field),
      (" > (SELECT MAX(__page_key) FROM (SELECT TOP (", .number skip.toNat),
      (") ", .named .field)] ++ tablePieces " AS __page_key FROM " qualified ++
    [(" ORDER BY ", .named .field), (") AS __page_boundary) ORDER BY ", .named .field)]
  | .sqlite | .postgres =>
    [(" WHERE ", .named .field),
      (" > (SELECT MAX(__page_key) FROM (SELECT ", .named .field)] ++
    tablePieces " AS __page_key FROM " qualified ++
    [(" ORDER BY ", .named .field), (" LIMIT ", .number skip.toNat),
      (") AS __page_boundary) ORDER BY ", .named .field)]

/-- The condition on the key and the order, by the key value or by the rows to skip. -/
def keyPieces (dialect : Dialect) (qualified bound : Bool) (skip : UInt64) :
    List (String × Slot) :=
  if bound then
    [(" WHERE ", .named .field), (" > ", .place 1), (" ORDER BY ", .named .field)]
  else if skip = 0 then [(" ORDER BY ", .named .field)]
  else boundaryPieces dialect qualified skip

/-- The window. -/
def windowPieces (dialect : Dialect) (limit skip : UInt64) : List (String × Slot) :=
  match dialect with
  | .sqlServer =>
    [(" OFFSET ", .number skip.toNat), (" ROWS FETCH NEXT ", .number limit.toNat)]
  | .sqlite | .postgres => [(" LIMIT ", .number limit.toNat), (" OFFSET ", .number skip.toNat)]

/-- The end of a window. -/
def windowEnding : Dialect → String
  | .sqlServer => " ROWS ONLY"
  | .sqlite | .postgres => ""

/-- The statement of a page without its names and its key value. -/
def template (dialect : Dialect) (qualified bound : Bool) (mode : Mode) (limit skip : UInt64) :
    Template :=
  match mode with
  | .none => ⟨tablePieces "SELECT * FROM " qualified, ""⟩
  | .limitOffset =>
    ⟨tablePieces "SELECT * FROM " qualified ++ (" ORDER BY ", .named .field) ::
      windowPieces dialect limit skip, windowEnding dialect⟩
  | .keyset =>
    ⟨tablePieces "SELECT * FROM " qualified ++ (keyPieces dialect qualified bound skip ++
      windowPieces dialect limit 0), windowEnding dialect⟩

/-- True where all fixed texts can stand behind a slot and leave no token open. -/
def apart (dialect : Dialect) (pieces : List (String × Slot)) : Bool :=
  pieces.all fun piece => Lexical.closed dialect piece.1 && Lexical.separated dialect piece.1

/-- The fixed texts around the rows to skip leave no token open. -/
theorem apart_boundary_pieces (dialect : Dialect) (qualified : Bool) (skip : UInt64) :
    apart dialect (boundaryPieces dialect qualified skip) = true := by
  cases dialect <;> cases qualified <;>
    simp only [boundaryPieces, tablePieces, apart, Bool.false_eq_true, if_false, if_true,
      List.cons_append, List.nil_append, List.all_cons, List.all_nil] <;>
    decide +kernel

/-- The fixed texts of the condition and of the order leave no token open. -/
theorem apart_key_pieces (dialect : Dialect) (qualified bound : Bool) (skip : UInt64) :
    apart dialect (keyPieces dialect qualified bound skip) = true := by
  unfold keyPieces
  split
  · cases dialect <;> rfl
  · split
    · cases dialect <;> rfl
    · exact apart_boundary_pieces dialect qualified skip

/-- The fixed texts of a window leave no token open. -/
theorem apart_window_pieces (dialect : Dialect) (limit skip : UInt64) :
    apart dialect (windowPieces dialect limit skip) = true := by
  cases dialect <;>
    simp only [windowPieces, apart, List.all_cons, List.all_nil] <;>
    decide +kernel

/-- A window may end a statement. -/
theorem ends_window_ending (dialect : Dialect) :
    Lexical.ends dialect (windowEnding dialect) = true := by
  cases dialect <;> rfl

/-- A statement goes on behind its table with texts that are apart. -/
theorem joined_of_apart {dialect : Dialect} (qualified : Bool) {rest : List (String × Slot)}
    {ending : String} (restApart : apart dialect rest = true)
    (last : Lexical.ends dialect ending = true) :
    (Template.mk (tablePieces "SELECT * FROM " qualified ++ rest) ending).Joined dialect := by
  have each : ∀ piece ∈ rest, Lexical.closed dialect piece.1 = true ∧
      Lexical.separated dialect piece.1 = true := by
    simpa only [apart, List.all_eq_true, Bool.and_eq_true] using restApart
  have first : Lexical.closed dialect "SELECT * FROM " = true := by cases dialect <;> decide +kernel
  have dot : Lexical.closed dialect "." = true ∧ Lexical.separated dialect "." = true := by
    cases dialect <;> decide +kernel
  cases qualified with
  | false =>
    exact ⟨List.forall_mem_cons.mpr ⟨first, fun piece member => (each piece member).1⟩,
      fun piece member => (each piece member).2, List.cons_ne_nil _ _, last⟩
  | true =>
    have behind : ∀ piece ∈ (".", Slot.named Part.table) :: rest,
        Lexical.closed dialect piece.1 = true ∧ Lexical.separated dialect piece.1 = true :=
      List.forall_mem_cons.mpr ⟨dot, each⟩
    exact ⟨List.forall_mem_cons.mpr ⟨first, fun piece member => (behind piece member).1⟩,
      fun piece member => (behind piece member).2, List.cons_ne_nil _ _, last⟩

/-- The fixed texts and the slots of a statement do not run into one another. -/
theorem template_joined (dialect : Dialect) (qualified bound : Bool) (mode : Mode)
    (limit skip : UInt64) :
    (template dialect qualified bound mode limit skip).Joined dialect := by
  have order : apart dialect [(" ORDER BY ", .named .field)] = true := by
    simp only [apart, List.all_cons, List.all_nil]
    cases dialect <;> decide +kernel
  have together {first second : List (String × Slot)} (firstApart : apart dialect first = true)
      (secondApart : apart dialect second = true) : apart dialect (first ++ second) = true := by
    rw [apart, List.all_append, Bool.and_eq_true]
    exact ⟨firstApart, secondApart⟩
  cases mode with
  | none =>
    have whole : (Template.mk (tablePieces "SELECT * FROM " qualified ++ []) "").Joined dialect :=
      joined_of_apart qualified rfl rfl
    rwa [List.append_nil] at whole
  | limitOffset =>
    exact joined_of_apart qualified (together order (apart_window_pieces dialect limit skip))
      (ends_window_ending dialect)
  | keyset =>
    exact joined_of_apart qualified
      (together (apart_key_pieces dialect qualified bound skip)
        (apart_window_pieces dialect limit 0))
      (ends_window_ending dialect)

end Templates

section Filling

variable {dialect : Dialect} {table : TableRef} {request : Request} {limit skip : UInt64}

/-- The text of fixed texts and slots. -/
def filled (dialect : Dialect) (table : TableRef) (request : Request)
    (pieces : List (String × Slot)) : List Char :=
  pieces.flatMap fun piece => piece.1.toList ++ piece.2.text dialect (partName table request)

/-- Nothing is filled in where there is no slot. -/
theorem filled_nil : filled dialect table request [] = [] := rfl

/-- A fixed text stands in front of what is filled in behind it. -/
theorem filled_cons (fixed : String) (slot : Slot) (rest : List (String × Slot)) :
    filled dialect table request ((fixed, slot) :: rest) =
      fixed.toList ++ (slot.text dialect (partName table request) ++
        filled dialect table request rest) := by
  simp [filled]

/-- Fixed texts and slots are filled in one after the other. -/
theorem filled_append (first second : List (String × Slot)) :
    filled dialect table request (first ++ second) =
      filled dialect table request first ++ filled dialect table request second :=
  List.flatMap_append

/-- The ordering field is written as the key. -/
theorem text_field : (Slot.named .field).text dialect (partName table request) =
    (keyText dialect request.orderingField).toList := rfl

/-- A number is written in digits. -/
theorem text_number (n : Nat) : (Slot.number n).text dialect (partName table request) =
    (Decimal.natText n).toList := by
  rw [Decimal.natText, String.toList_ofList]
  rfl

/-- A place is written as the dialect numbers them. -/
theorem text_place (index : Nat) : (Slot.place index).text dialect (partName table request) =
    (dialect.placeholder index).toList := rfl

/-- A table behind a fixed text, filled in. -/
theorem filled_table_pieces (fixed : String) :
    filled dialect table request (tablePieces fixed table.schema.isSome) =
      fixed.toList ++ (dialect.quoteTable table).toList := by
  obtain ⟨schema, name⟩ := table
  cases schema with
  | none => simp [filled, tablePieces, Slot.text, partName, Dialect.quoteTable]
  | some schema => simp [filled, tablePieces, Slot.text, partName, Dialect.quoteTable]

/-- A window, filled in. -/
theorem filled_window_pieces :
    filled dialect table request (windowPieces dialect limit skip) ++
        (windowEnding dialect).toList =
      (" " ++ (window dialect limit skip).text).toList := by
  cases dialect <;>
    simp [filled, windowPieces, windowEnding, window, Window.text, Slot.text, Decimal.natText]

/-- The condition that a bound puts on a key. -/
def conditionText (key : String) : Option Bound → String
  | none => ""
  | some bound => " WHERE " ++ key ++ " > " ++ bound.text key

/-- What is put behind the table, in one. -/
theorem fragment_eq (key : String) (bound : Option Bound) (cut : Window) (params : List Param) :
    Plan.fragment ⟨some ⟨key, bound, cut⟩, params⟩ =
      conditionText key bound ++ " ORDER BY " ++ key ++ " " ++ cut.text := by
  rw [← String.toList_inj]
  cases bound with
  | none => simp [Plan.fragment, Plan.whereText, Plan.orderText, Plan.limitText, conditionText]
  | some bound =>
    simp [Plan.fragment, Plan.whereText, Plan.orderText, Plan.limitText, conditionText]

/-- The largest key of the first rows in the spelling with a limit. -/
theorem text_largest_key_limit (key quoted : String) (rows : UInt64) :
    Bound.text key (.largestKey quoted (.limit rows)) =
      "(SELECT MAX(__page_key) FROM (SELECT " ++ key ++ " AS __page_key FROM " ++ quoted ++
        " ORDER BY " ++ key ++ " LIMIT " ++ Decimal.natText rows.toNat ++
          ") AS __page_boundary)" := rfl

/-- The largest key of the first rows in the spelling with a top. -/
theorem text_largest_key_top (key quoted : String) (rows : UInt64) :
    Bound.text key (.largestKey quoted (.top rows)) =
      "(SELECT MAX(__page_key) FROM (SELECT TOP (" ++ Decimal.natText rows.toNat ++ ") " ++ key ++
        " AS __page_key FROM " ++ quoted ++ " ORDER BY " ++ key ++ ") AS __page_boundary)" := rfl

/-- The condition on the rows to skip and the order, filled in. -/
theorem filled_boundary_pieces :
    filled dialect table request (boundaryPieces dialect table.schema.isSome skip) =
      (conditionText (keyText dialect request.orderingField)
          (some (.largestKey (dialect.quoteTable table) (leading dialect skip))) ++
        " ORDER BY " ++ keyText dialect request.orderingField).toList := by
  cases dialect <;>
    simp [boundaryPieces, conditionText, leading, text_largest_key_limit, text_largest_key_top,
      filled_cons, filled_nil, filled_append, filled_table_pieces, text_field, text_number]

/-- The condition and the order, filled in. -/
theorem filled_key_pieces :
    filled dialect table request
        (keyPieces dialect table.schema.isSome request.after.isSome skip) =
      (conditionText (keyText dialect request.orderingField)
          (keysetBound dialect (dialect.quoteTable table) request.after skip).1 ++
        " ORDER BY " ++ keyText dialect request.orderingField).toList := by
  cases given : request.after with
  | some key =>
    rw [keyPieces, Option.isSome_some, if_pos rfl]
    have place (key place : String) : Bound.text key (.parameter place) = place := rfl
    simp only [keysetBound, conditionText, place, filled_cons, filled_nil, text_field, text_place,
      String.toList_append, List.append_assoc, List.append_nil]
  | none =>
    rw [keyPieces, Option.isSome_none, if_neg Bool.false_ne_true]
    by_cases first : skip = 0
    · rw [if_pos first, keysetBound, if_pos first]
      simp only [conditionText, filled_cons, filled_nil, text_field, String.toList_append,
        String.toList_empty, List.nil_append, List.append_nil]
    · rw [if_neg first, keysetBound, if_neg first]
      exact filled_boundary_pieces

/-- What is planned is the template of the statement, filled in. -/
theorem to_list_statement {planned : Plan} (valid : request.validated = .ok skip)
    (accepted : plan dialect request (dialect.quoteTable table) = .ok planned) :
    (statement dialect table planned).toList =
      (template dialect table.schema.isSome request.after.isSome request.mode request.limit
        skip).text dialect (partName table request) := by
  have text_mk (pieces : List (String × Slot)) (ending : String) :
      (Template.mk pieces ending).text dialect (partName table request) =
        filled dialect table request pieces ++ ending.toList := rfl
  rw [plan_of_validated valid, Except.ok.injEq] at accepted
  subst accepted
  cases mode : request.mode with
  | none =>
    have nothing : Plan.fragment .empty = "" := rfl
    simp only [template, text_mk, filled_table_pieces, statement, nothing, String.toList_append]
  | limitOffset =>
    simp only [template, text_mk, filled_append, filled_cons, List.append_assoc,
      filled_window_pieces]
    simp only [filled_table_pieces, text_field, statement, fragment_eq, conditionText,
      String.toList_append, String.toList_empty, List.append_assoc, List.nil_append]
  | keyset =>
    simp only [template, text_mk, filled_append, List.append_assoc, filled_window_pieces]
    simp only [filled_table_pieces, filled_key_pieces, statement, fragment_eq,
      String.toList_append, List.append_assoc]

end Filling

section Comparison

variable {dialect : Dialect} {table other : TableRef} {request second : Request}
  {planned plannedSecond : Plan} {skip skipSecond : UInt64}

/-- Requests that agree in mode, limit and position skip equally many rows. -/
theorem skip_agrees (sameMode : request.mode = second.mode)
    (sameLimit : request.limit = second.limit) (samePosition : request.position = second.position)
    (valid : request.validated = .ok skip)
    (validSecond : second.validated = .ok skipSecond) : skip = skipSecond := by
  by_cases paged : request.mode = .none
  · have pagedSecond : second.mode = .none := sameMode ▸ paged
    rw [Request.validated, if_pos paged, Except.ok.injEq] at valid
    rw [Request.validated, if_pos pagedSecond, Except.ok.injEq] at validSecond
    rw [← valid, ← validSecond]
  · have skips := (Request.validated_eq_ok paged skip).mp valid
    have skipsSecond := (Request.validated_eq_ok (sameMode ▸ paged) skipSecond).mp validSecond
    have same : request.skipped = second.skipped := by
      unfold Request.skipped
      rw [samePosition, sameLimit]
    have rows := skips.skipped.symm.trans (same.trans skipsSecond.skipped)
    exact Except.ok.inj rows

/-- A key value is bound, and nothing else is. -/
theorem params_keyset_bound (quoted : String) (after : Option Param) :
    (keysetBound dialect quoted after skip).2 = after.toList := by
  cases after with
  | some key => rfl
  | none => by_cases first : skip = 0 <;> simp [keysetBound, first]

/-- Another key value has the same place. -/
theorem keyset_bound_map (quoted : String) (after : Option Param) (key : Param) :
    (keysetBound dialect quoted (after.map fun _ => key) skip).1 =
      (keysetBound dialect quoted after skip).1 := by
  cases after <;> rfl

/-- A key value is bound in the mode by key, and nothing is in any other. -/
theorem params_of_plan {quoted : String} (accepted : plan dialect request quoted = .ok planned) :
    planned.params = if request.mode = .keyset then request.after.toList else [] := by
  obtain ⟨skip, valid⟩ := exists_validated accepted
  rw [plan_of_validated valid, Except.ok.injEq] at accepted
  subst accepted
  cases mode : request.mode with
  | none => simp [Plan.empty]
  | limitOffset => simp
  | keyset => simp [params_keyset_bound]

/-- Another key value is bound in the place of the one that is given, and changes nothing else. -/
theorem plan_after {quoted : String} (accepted : plan dialect request quoted = .ok planned)
    (key : Param) :
    plan dialect { request with after := request.after.map fun _ => key } quoted =
      .ok { planned with params := planned.params.map fun _ => key } := by
  obtain ⟨skip, valid⟩ := exists_validated accepted
  have validOther :
      { request with after := request.after.map fun _ => key }.validated = .ok skip := valid
  rw [plan_of_validated valid, Except.ok.injEq] at accepted
  rw [plan_of_validated validOther]
  subst accepted
  cases mode : request.mode with
  | none => simp [Plan.empty]
  | limitOffset => simp
  | keyset =>
    have bound : (request.after.map fun _ => key).toList =
        request.after.toList.map fun _ => key := by
      cases request.after <;> rfl
    simp only [keyset_bound_map, params_keyset_bound, bound]

/-- There is one slot for a parameter in the mode by key when a key value is given, and none
else. -/
theorem countp_template (dialect : Dialect) (qualified bound : Bool) (mode : Mode)
    (limit skip : UInt64) :
    ((template dialect qualified bound mode limit skip).pieces.countP fun piece =>
        piece.2.isPlace) = if mode = .keyset ∧ bound = true then 1 else 0 := by
  have inTable (fixed : String) :
      (tablePieces fixed qualified).countP (fun piece => piece.2.isPlace) = 0 := by
    cases qualified <;> rfl
  have inWindow (rows : UInt64) :
      (windowPieces dialect limit rows).countP (fun piece => piece.2.isPlace) = 0 := by
    cases dialect <;> rfl
  have inKey : (keyPieces dialect qualified bound skip).countP (fun piece => piece.2.isPlace) =
      if bound = true then 1 else 0 := by
    cases bound with
    | true => rfl
    | false =>
      rw [keyPieces, if_neg Bool.false_ne_true, if_neg Bool.false_ne_true]
      split
      · rfl
      · cases dialect <;> cases qualified <;> rfl
  cases mode with
  | none => simpa [template] using inTable "SELECT * FROM "
  | limitOffset =>
    have inOrder := List.countP_cons_of_neg (p := fun piece : String × Slot => piece.2.isPlace)
      (a := (" ORDER BY ", Slot.named .field)) (l := windowPieces dialect limit skip) nofun
    simp [template, inTable, inWindow, inOrder]
  | keyset => simp only [template, List.countP_append, inTable, inKey, inWindow, true_and,
      Nat.zero_add, Nat.add_zero]

/-- What the work on a page issues: one statement whose parameters are bound to the places in it,
and whose text a key value has no part in. -/
structure Issues (dialect : Dialect) (table : TableRef) (request : Request) (planned : Plan)
    (tokens : List Token) : Prop where
  issued : Catalog.pageOf dialect request table =
    Work.query (statement dialect table planned) planned.params
  lexed : Lexical.lex dialect (statement dialect table planned).toList = some tokens
  params : planned.params = [] ∨ ∃ key, request.after = some key ∧ planned.params = [key]
  places : tokens.countP Token.isPlace = planned.params.length
  /-- Any other key value leads to the same statement. -/
  unwritten : ∀ key, plan dialect { request with after := request.after.map fun _ => key }
    (dialect.quoteTable table) = .ok { planned with params := planned.params.map fun _ => key }

/-- The work on a page is one query, once the page is planned. -/
theorem page_of_eq_query
    (accepted : plan dialect request (dialect.quoteTable table) = .ok planned) :
    Catalog.pageOf dialect request table =
      Work.query (statement dialect table planned) planned.params := by
  funext driver
  rw [Catalog.pageOf, accepted]
  rfl

/-- What a page issues has the tokens of its template. -/
theorem issues_tokens (valid : request.validated = .ok skip)
    (accepted : plan dialect request (dialect.quoteTable table) = .ok planned) :
    Issues dialect table request planned
      ((template dialect table.schema.isSome request.after.isSome request.mode request.limit
        skip).tokens dialect (partName table request)) := by
  have joined := template_joined dialect table.schema.isSome request.after.isSome request.mode
    request.limit skip
  have bound := params_of_plan accepted
  constructor
  · exact page_of_eq_query accepted
  · rw [to_list_statement valid accepted, Lexical.lex_text joined]
  · rw [bound]
    cases given : request.after with
    | none => simp
    | some key => by_cases byKey : request.mode = .keyset <;> simp [byKey]
  · rw [Template.countp_is_place joined, countp_template, bound]
    by_cases byKey : request.mode = .keyset
    · cases request.after <;> simp [byKey]
    · simp [byKey]
  · exact plan_after accepted

/-- Two requests for pages that agree in all but the names and the key value issue statements with
the same tokens but for the names, each of which is the schema, the table or the trimmed ordering
field of its own request; the places in a statement are those of its parameters, and a key value is
one of these and has no part in the text.

Proof: both statements are fillings of one template, since the requests agree in all that it depends
on. The fixed texts of the template leave no token open and end the one in front of them, so a
statement has the tokens of the fixed texts and one for each slot, and these differ in the slots of
names only. -/
theorem page_of_parallel (sameShape : table.schema.isSome = other.schema.isSome)
    (sameMode : request.mode = second.mode) (sameLimit : request.limit = second.limit)
    (samePosition : request.position = second.position)
    (sameGiven : request.after.isSome = second.after.isSome)
    (accepted : plan dialect request (dialect.quoteTable table) = .ok planned)
    (acceptedSecond : plan dialect second (dialect.quoteTable other) = .ok plannedSecond) :
    ∃ tokens tokensSecond, Issues dialect table request planned tokens ∧
      Issues dialect other second plannedSecond tokensSecond ∧
        List.Forall₂ (Parallel (partName table request) (partName other second)) tokens
          tokensSecond := by
  obtain ⟨skip, valid⟩ := exists_validated accepted
  obtain ⟨skipSecond, validSecond⟩ := exists_validated acceptedSecond
  have sameSkip := skip_agrees sameMode sameLimit samePosition valid validSecond
  have issued := issues_tokens valid accepted
  have issuedSecond := issues_tokens validSecond acceptedSecond
  rw [← sameShape, ← sameMode, ← sameLimit, ← sameGiven, ← sameSkip] at issuedSecond
  exact ⟨_, _, issued, issuedSecond, Template.tokens_parallel
    (template_joined dialect table.schema.isSome request.after.isSome request.mode request.limit
      skip) _ _⟩

/-- A plain request, and one whose names and key value hold quotes, a statement and the beginning
of a comment. -/
theorem page_of_parallel_quotes :
    ∃ planned plannedSecond,
      plan .postgres ⟨.keyset, 10, .index 2, " id ", some (.int 7)⟩
          (Dialect.postgres.quoteTable ⟨some "public", "users"⟩) = .ok planned ∧
        plan .postgres ⟨.keyset, 10, .index 2, "id\" /*", some (.string "' OR 1=1")⟩
          (Dialect.postgres.quoteTable ⟨some "a\".\"b", "c\"; DROP TABLE d"⟩) =
            .ok plannedSecond ∧
        ∃ tokens tokensSecond,
          Issues .postgres ⟨some "public", "users"⟩
            ⟨.keyset, 10, .index 2, " id ", some (.int 7)⟩ planned tokens ∧
          Issues .postgres ⟨some "a\".\"b", "c\"; DROP TABLE d"⟩
            ⟨.keyset, 10, .index 2, "id\" /*", some (.string "' OR 1=1")⟩ plannedSecond
            tokensSecond ∧
          List.Forall₂ (Parallel
            (partName ⟨some "public", "users"⟩
              ⟨.keyset, 10, .index 2, " id ", some (.int 7)⟩)
            (partName ⟨some "a\".\"b", "c\"; DROP TABLE d"⟩
              ⟨.keyset, 10, .index 2, "id\" /*", some (.string "' OR 1=1")⟩))
            tokens tokensSecond :=
  ⟨_, _, rfl, rfl, page_of_parallel rfl rfl rfl rfl rfl rfl rfl⟩

end Comparison

end SqlAccess.Page
