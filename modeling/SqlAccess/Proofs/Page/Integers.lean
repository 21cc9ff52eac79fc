import SqlAccess.Proofs.Page.Acceptance
import SqlAccess.Proofs.Page.Statements

/-!
# The integers of a page

Engines read the integers of a window and of a boundary as signed words of 64 bits. Main statement:
which integers stand in the statement of a page, in their order, as a reader of its tokens finds
them. The number of rows to skip and the count of a boundary are always in range, because a request
is refused whose count is not. The limit stands there as it was given; so all integers are in range
exactly when the limit is, or when there is no paging.
-/

namespace SqlAccess.Page

open Lexical (Slot)

/-- The greatest integer that engines read. -/
def bigintMax : Nat := Nat.pow 2 63 - 1

/-- The integers in a window. -/
def windowIntegers (dialect : Dialect) (limit skip : Nat) : List Nat :=
  match dialect with
  | .sqlServer => [skip, limit]
  | .sqlite | .postgres => [limit, skip]

/-- The integers that the statement of a page has, in their order. A boundary counts the rows before
the page, and is there only where a page is selected by key, behind some rows, and without a key to
start from. -/
def Request.integers (dialect : Dialect) (request : Request) : List Nat :=
  match request.mode with
  | .none => []
  | .limitOffset => windowIntegers dialect request.limit.toNat request.before
  | .keyset =>
    (if request.after.isSome = true ∨ request.before = 0 then [] else [request.before]) ++
      windowIntegers dialect request.limit.toNat 0

section Numbers

variable {dialect : Dialect} {request : Request} {skip : UInt64}

/-- No text in front of a slot has a number in it. -/
theorem numberless_pieces (dialect : Dialect) (qualified bound : Bool) (mode : Mode)
    (limit skip : UInt64) :
    ∀ piece ∈ (template dialect qualified bound mode limit skip).pieces,
      Lexical.numberless dialect piece.1 = true := by
  have every : (template dialect qualified bound mode limit skip).pieces.all
      (fun piece => Lexical.numberless dialect piece.1) = true := by
    by_cases first : skip = 0 <;>
      cases mode <;> cases dialect <;> cases qualified <;> cases bound <;>
      simp only [template, tablePieces, keyPieces, boundaryPieces, windowPieces, first, if_true,
        if_false, Bool.false_eq_true, List.cons_append, List.nil_append, List.all_cons,
        List.all_nil] <;>
      decide +kernel
  exact List.all_eq_true.mp every

/-- Nor has the end of a statement. -/
theorem numberless_ending (dialect : Dialect) (qualified bound : Bool) (mode : Mode)
    (limit skip : UInt64) :
    Lexical.numberless dialect (template dialect qualified bound mode limit skip).ending =
      true := by
  have ofWindow : Lexical.numberless dialect (windowEnding dialect) = true := by
    cases dialect <;> decide +kernel
  cases mode with
  | none => cases dialect <;> rfl
  | limitOffset | keyset => exact ofWindow

/-- The numbers of a table are none: it has only names. -/
theorem filter_map_table_pieces (fixed : String) (qualified : Bool) :
    (tablePieces fixed qualified).filterMap (fun piece => piece.2.number?) = [] := by
  cases qualified <;> rfl

/-- The numbers of a window. -/
theorem filter_map_window_pieces (limit rows : UInt64) :
    (windowPieces dialect limit rows).filterMap (fun piece => piece.2.number?) =
      windowIntegers dialect limit.toNat rows.toNat := by
  cases dialect <;> rfl

/-- The number of a boundary is the count of the rows before the page. -/
theorem filter_map_key_pieces (qualified bound : Bool) :
    (keyPieces dialect qualified bound skip).filterMap (fun piece => piece.2.number?) =
      if bound = true ∨ skip = 0 then [] else [skip.toNat] := by
  cases bound with
  | true => rfl
  | false =>
    by_cases first : skip = 0
    · subst first
      rfl
    · simp only [keyPieces, first, if_false, Bool.false_eq_true, or_self]
      cases dialect <;> cases qualified <;> rfl

/-- The slots for numbers hold the integers of the request. -/
theorem filter_map_template (qualified : Bool)
    (counts : request.mode ≠ .none → skip.toNat = request.before) :
    List.filterMap (fun piece => piece.2.number?)
        (template dialect qualified request.after.isSome request.mode request.limit skip).pieces =
      request.integers dialect := by
  cases mode : request.mode with
  | none => simp only [template, filter_map_table_pieces, Request.integers, mode]
  | limitOffset =>
    have counted := counts (mode ▸ Mode.noConfusion)
    have named (rest : List (String × Slot)) :
        ((" ORDER BY ", Slot.named .field) :: rest).filterMap (fun piece => piece.2.number?) =
          rest.filterMap fun piece => piece.2.number? := rfl
    simp only [template, List.filterMap_append, filter_map_table_pieces, List.nil_append, named,
      filter_map_window_pieces, counted, Request.integers, mode]
  | keyset =>
    have counted := counts (mode ▸ Mode.noConfusion)
    have start : skip = 0 ↔ request.before = 0 := by
      rw [← counted]
      exact UInt64.toNat_inj.symm
    simp only [template, List.filterMap_append, filter_map_table_pieces, List.nil_append,
      filter_map_key_pieces, filter_map_window_pieces, counted, start, Request.integers, mode,
      UInt64.toNat_zero]

/-- The numbers that a reader finds in the statement of a page are the integers of the request. -/
theorem numbers?_statement {table : TableRef} {planned : Plan}
    (accepted : plan dialect request (dialect.quoteTable table) = .ok planned) :
    Lexical.numbers? dialect (statement dialect table planned).toList =
      some (request.integers dialect) := by
  obtain ⟨skip, valid⟩ := exists_validated accepted
  have counts (paged : request.mode ≠ .none) : skip.toNat = request.before :=
    ((Request.validated_eq_ok paged skip).mp valid).to_nat_eq
  rw [to_list_statement valid accepted,
    Lexical.Template.numbers?_text (template_joined ..) _ (numberless_pieces _ _ _ _ _ _)
      (numberless_ending ..),
    filter_map_template _ counts]

end Numbers

section Range

variable {dialect : Dialect} {request : Request}

/-- The rows before a page that is planned are in range. -/
theorem before_le_bigint_max {table : String} {planned : Plan} (paged : request.mode ≠ .none)
    (accepted : plan dialect request table = .ok planned) : request.before ≤ bigintMax := by
  obtain ⟨skip, skips⟩ := skips_of_plan paged accepted
  have inRange := skips.inRange
  rw [skips.to_nat_eq] at inRange
  exact Nat.le_sub_one_of_lt inRange

/-- The limit is among the integers of a request with paging. -/
theorem limit_mem_integers (paged : request.mode ≠ .none) :
    request.limit.toNat ∈ request.integers dialect := by
  have inWindow (skip : Nat) :
      request.limit.toNat ∈ windowIntegers dialect request.limit.toNat skip := by
    cases dialect <;> simp [windowIntegers]
  unfold Request.integers
  cases mode : request.mode with
  | none => exact absurd mode paged
  | limitOffset => exact inWindow request.before
  | keyset => exact List.mem_append_right _ (inWindow 0)

/-- The others are the rows before the page, or zero. -/
theorem eq_of_mem_integers {n : Nat} (member : n ∈ request.integers dialect) :
    request.mode ≠ .none ∧ (n = request.limit.toNat ∨ n = request.before ∨ n = 0) := by
  have inWindow {skip : Nat} (among : n ∈ windowIntegers dialect request.limit.toNat skip) :
      n = request.limit.toNat ∨ n = skip := by
    cases dialect <;> simp [windowIntegers] at among <;> omega
  unfold Request.integers at member
  cases mode : request.mode with
  | none =>
    rw [mode] at member
    exact absurd member List.not_mem_nil
  | limitOffset =>
    rw [mode] at member
    exact ⟨Mode.noConfusion, (inWindow member).imp_right .inl⟩
  | keyset =>
    rw [mode] at member
    refine ⟨Mode.noConfusion, ?_⟩
    rcases List.mem_append.mp member with ofBoundary | ofWindow
    · split at ofBoundary
      · exact absurd ofBoundary List.not_mem_nil
      · exact .inr (.inl (List.mem_singleton.mp ofBoundary))
    · exact (inWindow ofWindow).imp_right .inr

end Range

/-- What stands in the statement of a page that is planned. -/
structure WritesIntegers (dialect : Dialect) (request : Request) (written : String) : Prop where
  /-- The integers of the request stand there, and no other number does. -/
  numbers : Lexical.numbers? dialect written.toList = some (request.integers dialect)
  /-- All of them are in range but for the limit. -/
  others : ∀ n ∈ request.integers dialect, n = request.limit.toNat ∨ n ≤ bigintMax
  /-- So all of them are, exactly where the limit is or where it is not written. -/
  inRange : (∀ n ∈ request.integers dialect, n ≤ bigintMax) ↔
    request.mode = .none ∨ request.limit.toNat ≤ bigintMax

/-- The integers of every page that is planned are those of its request, and engines can read them
exactly where they can read the limit: for every dialect, every table and every request.

Proof: the statement is a template with no number in its fixed texts, so its integers are those of
its slots. Each of them is the limit, the rows before the page or zero, and the rows before a page
that is planned are in range. -/
theorem plan_writes_integers (dialect : Dialect) (table : TableRef) (request : Request)
    (planned : Plan) (accepted : plan dialect request (dialect.quoteTable table) = .ok planned) :
    Catalog.pageOf dialect request table =
        Work.query (statement dialect table planned) planned.params ∧
      WritesIntegers dialect request (statement dialect table planned) := by
  have others :
      ∀ n ∈ request.integers dialect, n = request.limit.toNat ∨ n ≤ bigintMax := by
    intro n member
    obtain ⟨paged, isLimit | isBefore | isZero⟩ := eq_of_mem_integers member
    · exact .inl isLimit
    · exact .inr (isBefore ▸ before_le_bigint_max paged accepted)
    · exact .inr (isZero ▸ Nat.zero_le _)
  refine ⟨page_of_eq_query accepted, numbers?_statement accepted, others, ?_⟩
  constructor
  · intro inRange
    by_cases paged : request.mode = .none
    · exact .inl paged
    · exact .inr (inRange _ (limit_mem_integers paged))
  · rintro (unpaged | small) n member
    · exact absurd unpaged (eq_of_mem_integers member).1
    · exact (others n member).elim (fun isLimit => isLimit ▸ small) id

/-- A page by key with a boundary, all of whose integers can be read. -/
theorem plan_writes_integers_boundary :
    let request : Request := ⟨.keyset, 4611686018427387904, .index 1, " id ", none⟩
    let table : TableRef := ⟨some "dbo", "9]9"⟩
    ∃ planned, plan .sqlServer request (Dialect.sqlServer.quoteTable table) = .ok planned ∧
      Catalog.pageOf .sqlServer request table =
          Work.query (statement .sqlServer table planned) planned.params ∧
        WritesIntegers .sqlServer request (statement .sqlServer table planned) :=
  ⟨_, rfl, plan_writes_integers _ _ _ _ rfl⟩

/-- A limit that engines cannot read is planned and written as it is given: there is a check of the
rows before a page and none of the limit. -/
theorem plan_limit_beyond :
    let request : Request := ⟨.limitOffset, 9223372036854775808, .offset 0, "id", none⟩
    let table : TableRef := ⟨none, "t"⟩
    ∃ planned, plan .sqlite request (Dialect.sqlite.quoteTable table) = .ok planned ∧
      planned.limitText = some "LIMIT 9223372036854775808 OFFSET 0" ∧
      Lexical.numbers? .sqlite (statement .sqlite table planned).toList =
        some [9223372036854775808, 0] ∧
      bigintMax < 9223372036854775808 :=
  ⟨_, rfl, rfl, by decide +kernel, by decide⟩

end SqlAccess.Page
