import SqlAccess.Proofs.Page.Acceptance
import SqlAccess.Proofs.Page.Agreement

/-!
# Walking a table page by page

A table is read to its end by asking for one page after another: by position the next page has the
next index, by key it lies behind the last key of the page before. A page that is shorter than the
limit is the last one. Main statement: over a table with distinct keys both walks give the same
pages, which are the rows in the order of their keys cut to the limit, so that every row is visited
once; and there is one page more than the limit goes into the number of rows. The walk by position
needs the index of its last page to be in range, the walk by key needs no index.

Both walks are one induction over the rows that are left. It needs to know of a request only which
rows it stands in front of.
-/

namespace SqlAccess.Page

open Query (Database Keyed Arranged)

section Pages

variable {R : Type}

/-- Rows cut into pages. The last page is not full; it is empty where the others hold all rows. -/
def pagesOf (limit : Nat) (rows : List R) : List (List R) :=
  (List.range (rows.length / limit + 1)).map fun index => (rows.drop (index * limit)).take limit

/-- Rows that do not fill a page are one page. -/
theorem pages_of_short {limit : Nat} {rows : List R} (short : rows.length < limit) :
    pagesOf limit rows = [rows] := by
  simp [pagesOf, Nat.div_eq_of_lt short, List.take_of_length_le (Nat.le_of_lt short)]

/-- Rows that fill a page are this page and the pages of the others. -/
theorem pages_of_full {limit : Nat} {rows : List R} (positive : 0 < limit)
    (full : limit ≤ rows.length) :
    pagesOf limit rows = rows.take limit :: pagesOf limit (rows.drop limit) := by
  have count : rows.length / limit = (rows.length - limit) / limit + 1 :=
    Nat.div_eq_sub_div positive full
  have later (index : Nat) : limit + index * limit = (index + 1) * limit := by
    rw [Nat.add_mul, Nat.one_mul, Nat.add_comm]
  simp only [pagesOf, List.length_drop, count, List.drop_drop, later]
  rw [List.range_succ_eq_map, List.map_cons, List.map_map]
  simp only [Nat.zero_mul, List.drop_zero, Function.comp_def, Nat.succ_eq_add_one]

/-- There is one page more than the limit goes into the number of rows. -/
theorem length_pages_of (limit : Nat) (rows : List R) :
    (pagesOf limit rows).length = rows.length / limit + 1 := by
  rw [pagesOf, List.length_map, List.length_range]

/-- The pages hold the rows in their order. -/
theorem flatten_pages_of {limit : Nat} (positive : 0 < limit) (rows : List R) :
    (pagesOf limit rows).flatten = rows := by
  induction counted : rows.length using Nat.strong_induction_on generalizing rows with
  | _ count inductionHypothesis =>
    by_cases full : limit ≤ rows.length
    · have fewer : (rows.drop limit).length < count := by
        rw [List.length_drop]
        omega
      rw [pages_of_full positive full, List.flatten_cons, inductionHypothesis _ fewer _ rfl,
        List.take_append_drop]
    · rw [pages_of_short (Nat.lt_of_not_le full), List.flatten_singleton]

end Pages

section Walks

variable {R K : Type} [LinearOrder K]

/-- A page that a request may be answered with: the work on it is one statement, which the engine
may answer with the page. -/
def Serves (database : Database R K) (dialect : Dialect) (table : TableRef) (request : Request)
    (page : List R) : Prop :=
  ∃ planned, plan dialect request (dialect.quoteTable table) = .ok planned ∧
    Catalog.pageOf dialect request table =
      Work.query (statement dialect table planned) planned.params ∧
    planned.Selects database dialect table page

/-- The request behind a page: by position the one with the next index, by key the one with the
value `given` for the last row. -/
inductive Follows (given : R → Param) (page : List R) : Request → Request → Prop
  | byPosition (limit index : UInt64) (field : String) (ignored : Option Param) :
    Follows given page ⟨.limitOffset, limit, .index index, field, ignored⟩
      ⟨.limitOffset, limit, .index (index + 1), field, ignored⟩
  | byKey (limit : UInt64) (position : Position) (field : String) (after : Option Param) (last : R)
      (isLast : page.getLast? = some last) :
    Follows given page ⟨.keyset, limit, position, field, after⟩
      ⟨.keyset, limit, position, field, some (given last)⟩

/-- The pages of a walk that starts with a request. It goes on behind every page that is as long as
the limit. -/
inductive Walks (database : Database R K) (dialect : Dialect) (table : TableRef)
    (given : R → Param) :
    Request → List (List R) → Prop
  | stop {request : Request} {page : List R} (served : Serves database dialect table request page)
      (short : page.length < request.limit.toNat) :
    Walks database dialect table given request [page]
  | onwards {request following : Request} {page : List R} {pages : List (List R)}
      (served : Serves database dialect table request page)
      (full : request.limit.toNat ≤ page.length) (follows : Follows given page request following)
      (rest : Walks database dialect table given following pages) :
    Walks database dialect table given request (page :: pages)

variable {database : Database R K} {dialect : Dialect} {table : TableRef} {field : String}
  {given : R → Param} {limit : UInt64} {arranged : List R}

/-- A request whose plan selects one page only may be answered with this page only. -/
theorem serves_iff {request : Request} {planned : Plan} {page : List R}
    (accepted : plan dialect request (dialect.quoteTable table) = .ok planned)
    (only : planned.SelectsOnly database dialect table page) (rows : List R) :
    Serves database dialect table request rows ↔ rows = page := by
  constructor
  · rintro ⟨other, otherAccepted, _, selected⟩
    cases accepted.symm.trans otherAccepted
    exact (only rows).mp selected
  · rintro rfl
    exact ⟨planned, accepted, page_of_eq_query accepted, (only rows).mpr rfl⟩

/-- What a walk has to know of its requests: each stands in front of some rows and is answered with
the first of them; and behind a full page there is one request, which stands in front of the
others. -/
structure Marches (database : Database R K) (dialect : Dialect) (table : TableRef)
    (given : R → Param)
    (limit : UInt64) (inFront : Request → List R → Prop) : Prop where
  limited : ∀ {request rest}, inFront request rest → request.limit = limit
  serves : ∀ {request rest}, inFront request rest →
    ∀ page, Serves database dialect table request page ↔ page = rest.take limit.toNat
  follows : ∀ {request rest}, inFront request rest → limit.toNat ≤ rest.length →
    ∃ following,
      (∀ other, Follows given (rest.take limit.toNat) request other ↔ other = following) ∧
      inFront following (rest.drop limit.toNat)

/-- Such a walk gives the pages of the rows that are left. The induction is on their number. -/
theorem Marches.walks_iff {inFront : Request → List R → Prop}
    (marches : Marches database dialect table given limit inFront) (positive : 0 < limit.toNat)
    {request : Request} {rest : List R} (stands : inFront request rest) (pages : List (List R)) :
    Walks database dialect table given request pages ↔ pages = pagesOf limit.toNat rest := by
  induction counted : rest.length using Nat.strong_induction_on
    generalizing request rest pages with
  | _ count inductionHypothesis =>
    have isLimit := marches.limited stands
    have served := marches.serves stands
    by_cases full : limit.toNat ≤ rest.length
    · have isFull : limit.toNat ≤ (rest.take limit.toNat).length := by
        rw [List.length_take]
        omega
      have fewer : (rest.drop limit.toNat).length < count := by
        rw [List.length_drop]
        omega
      obtain ⟨following, onlyFollows, standsBehind⟩ := marches.follows stands full
      have later := inductionHypothesis _ fewer standsBehind
      rw [pages_of_full positive full]
      constructor
      · intro walk
        cases walk with
        | stop wasServed short =>
          obtain rfl := (served _).mp wasServed
          rw [isLimit] at short
          exact absurd isFull (Nat.not_le_of_lt short)
        | onwards wasServed _ follows others =>
          obtain rfl := (served _).mp wasServed
          obtain rfl := (onlyFollows _).mp follows
          rw [(later _ rfl).mp others]
      · rintro rfl
        exact .onwards ((served _).mpr rfl) (by rwa [isLimit]) ((onlyFollows _).mpr rfl)
          ((later _ rfl).mpr rfl)
    · have short : rest.length < limit.toNat := Nat.lt_of_not_le full
      have whole : rest.take limit.toNat = rest := List.take_of_length_le (Nat.le_of_lt short)
      rw [pages_of_short short]
      constructor
      · intro walk
        cases walk with
        | stop wasServed _ => rw [(served _).mp wasServed, whole]
        | onwards wasServed isFull _ _ =>
          rw [(served _).mp wasServed, whole, isLimit] at isFull
          exact absurd isFull full
      · rintro rfl
        exact .stop ((served _).mpr whole.symm) (by rwa [isLimit])

end Walks

section ByPosition

variable {R K : Type} [LinearOrder K] {database : Database R K} {dialect : Dialect}
  {table : TableRef} {field : String} {given : R → Param} {limit : UInt64} {arranged : List R}
  {ignored : Option Param}

/-- The rows in front of which a page by position stands. No index is beyond the last page. -/
inductive AtIndex (limit : UInt64) (field : String) (ignored : Option Param) (arranged : List R) :
    Request → List R → Prop
  | mk (index : Nat) (reached : index * limit.toNat ≤ arranged.length) :
    AtIndex limit field ignored arranged
      ⟨.limitOffset, limit, .index (UInt64.ofNat index), field, ignored⟩
      (arranged.drop (index * limit.toNat))

/-- An index that is reached skips the rows before its page. -/
theorem skips_at_index (ignored : Option Param) (named : Text.isBlankText field = false)
    (positive : limit ≠ 0) {rows index : Nat}
    (inRange : rows / limit.toNat * limit.toNat < Nat.pow 2 63)
    (reached : index * limit.toNat ≤ rows) :
    ∃ skip,
      Request.Skips ⟨.limitOffset, limit, .index (UInt64.ofNat index), field, ignored⟩ skip ∧
      skip.toNat = index * limit.toNat := by
  have some : 0 < limit.toNat := Nat.pos_of_ne_zero fun zero =>
    positive (UInt64.toNat_inj.mp zero)
  have atMost : index ≤ rows / limit.toNat := (Nat.le_div_iff_mul_le some).mpr reached
  have skipped : index * limit.toNat < Nat.pow 2 63 :=
    Nat.lt_of_le_of_lt (Nat.mul_le_mul_right limit.toNat atMost) inRange
  have fits : Nat.pow 2 63 < UInt64.size := by decide
  have small : index < UInt64.size := by
    have atMost : index ≤ index * limit.toNat := Nat.le_mul_of_pos_right index some
    omega
  have isIndex : (UInt64.ofNat index).toNat = index := UInt64.toNat_ofNat_of_lt' small
  have before :
      Request.before ⟨.limitOffset, limit, .index (UInt64.ofNat index), field, ignored⟩ =
        index * limit.toNat := congrArg (· * limit.toNat) isIndex
  obtain ⟨skip, skips⟩ :=
    (Request.exists_skips_iff _).mpr ⟨named, positive, before ▸ skipped⟩
  exact ⟨skip, skips, skips.to_nat_eq.trans before⟩

/-- The walk by position. -/
theorem marches_by_position
    (keyed : Keyed (database.cell (Text.trimmed field)) (database.rows table))
    (arranges :
      Arranged .ascending (database.cell (Text.trimmed field)) (database.rows table) arranged)
    (named : Text.isBlankText field = false) (positive : limit ≠ 0)
    (inRange : arranged.length / limit.toNat * limit.toNat < Nat.pow 2 63) :
    Marches database dialect table given limit (AtIndex limit field ignored arranged) where
  limited := by
    rintro _ _ ⟨index, reached⟩
    rfl
  serves := by
    rintro _ _ ⟨index, reached⟩
    obtain ⟨skip, skips, isSkip⟩ := skips_at_index ignored named positive inRange reached
    rw [← isSkip]
    have accepted : plan dialect _ (dialect.quoteTable table) = .ok _ := plan_limit_offset skips
    exact serves_iff accepted (selects_only_limit_offset keyed arranges skips accepted)
  follows := by
    rintro _ _ ⟨index, reached⟩ full
    have next : (index + 1) * limit.toNat = index * limit.toNat + limit.toNat := by
      rw [Nat.add_mul, Nat.one_mul]
    have standsBehind : AtIndex limit field ignored arranged
        ⟨.limitOffset, limit, .index (UInt64.ofNat index + 1), field, ignored⟩
        ((arranged.drop (index * limit.toNat)).drop limit.toNat) := by
      have nextReached : (index + 1) * limit.toNat ≤ arranged.length := by
        rw [List.length_drop] at full
        omega
      rw [List.drop_drop, ← next, ← UInt64.ofNat_one, ← UInt64.ofNat_add]
      exact .mk (index + 1) nextReached
    refine ⟨_, fun other => ?_, standsBehind⟩
    constructor
    · intro follows
      cases follows with
      | byPosition => rfl
    · rintro rfl
      exact .byPosition limit (UInt64.ofNat index) field ignored

end ByPosition

section ByKey

variable {R K : Type} [LinearOrder K] {database : Database R K} {dialect : Dialect}
  {table : TableRef} {field : String} {given : R → Param} {limit : UInt64} {arranged : List R}
  {position : Position}

/-- The rows in front of which a page by key stands: those behind the row whose key is given, and
all where none is. -/
inductive BehindKey (limit : UInt64) (position : Position) (field : String) (given : R → Param)
    (arranged : List R) : Request → List R → Prop
  | mk (passed rest : List R) (whole : passed ++ rest = arranged) :
    BehindKey limit position field given arranged
      ⟨.keyset, limit, position, field, passed.getLast?.map given⟩ rest

/-- A page by key holds the first of the rows that are left. Where none is passed the page is
looked up at the start, else it is behind the key of the last row that is. -/
theorem serves_behind_key
    (keyed : Keyed (database.cell (Text.trimmed field)) (database.rows table))
    (arranges :
      Arranged .ascending (database.cell (Text.trimmed field)) (database.rows table) arranged)
    (starts : ∀ after, Request.Skips ⟨.keyset, limit, position, field, after⟩ 0)
    (bound : ∀ row ∈ database.rows table,
      database.value (given row) = database.cell (Text.trimmed field) row)
    {passed rest : List R} (whole : passed ++ rest = arranged) (page : List R) :
    Serves database dialect table
        ⟨.keyset, limit, position, field, passed.getLast?.map given⟩ page ↔
      page = rest.take limit.toNat := by
  rcases List.eq_nil_or_concat passed with rfl | ⟨before, row, rfl⟩
  · obtain rfl : rest = arranged := whole
    have accepted : plan dialect _ (dialect.quoteTable table) = .ok _ := plan_keyset (starts none)
    exact serves_iff accepted (selects_only_looked_up keyed arranges (starts none) accepted) page
  · have isLast : arranged[before.length]? = some row := by simp [← whole]
    have behind : arranged.drop (before.length + 1) = rest := by simp [← whole, List.drop_append]
    have isKey := bound row (arranges.1.subset (List.mem_of_getElem? isLast))
    have accepted : plan dialect _ (dialect.quoteTable table) = .ok _ :=
      plan_keyset (starts (some (given row)))
    have only := selects_only_given keyed arranges isLast isKey accepted
    rw [behind] at only
    simpa using serves_iff accepted only page

/-- The walk by key. -/
theorem marches_by_key (positive : limit ≠ 0)
    (keyed : Keyed (database.cell (Text.trimmed field)) (database.rows table))
    (arranges :
      Arranged .ascending (database.cell (Text.trimmed field)) (database.rows table) arranged)
    (starts : ∀ after, Request.Skips ⟨.keyset, limit, position, field, after⟩ 0)
    (bound : ∀ row ∈ database.rows table,
      database.value (given row) = database.cell (Text.trimmed field) row) :
    Marches database dialect table given limit (BehindKey limit position field given arranged) where
  limited := by
    rintro _ _ ⟨passed, rest, whole⟩
    rfl
  serves := by
    rintro _ _ ⟨passed, rest, whole⟩
    exact serves_behind_key keyed arranges starts bound whole
  follows := by
    rintro _ rest ⟨passed, _, whole⟩ full
    have isFull : rest.take limit.toNat ≠ [] := by
      simp only [ne_eq, List.take_eq_nil_iff]
      rintro (zero | rfl)
      · exact positive (UInt64.toNat_inj.mp zero)
      · exact positive (UInt64.toNat_inj.mp (Nat.le_zero.mp full))
    have isLast :
        (rest.take limit.toNat).getLast? = some ((rest.take limit.toNat).getLast isFull) :=
      List.getLast?_eq_some_getLast isFull
    have standsBehind : BehindKey limit position field given arranged
        ⟨.keyset, limit, position, field, some (given ((rest.take limit.toNat).getLast isFull))⟩
        (rest.drop limit.toNat) := by
      have last : (passed ++ rest.take limit.toNat).getLast? =
          some ((rest.take limit.toNat).getLast isFull) := by
        rw [List.getLast?_append, isLast, Option.some_or]
      have stands : BehindKey limit position field given arranged _ _ :=
        .mk (passed ++ rest.take limit.toNat) (rest.drop limit.toNat)
          (by rw [List.append_assoc, List.take_append_drop, whole])
      rwa [last] at stands
    refine ⟨_, fun other => ?_, standsBehind⟩
    constructor
    · intro follows
      cases follows with
      | byKey _ _ _ _ last wasLast => rw [Option.some.inj (isLast.symm.trans wasLast)]
    · rintro rfl
      exact .byKey limit position field _ _ isLast

end ByKey

/-- Both walks over a table with distinct keys give the same pages, for every dialect and every
limit, and no others: the rows in the order of their keys, each of them once. By position they do so
where the index of the last page is in range; what such a request gives for `after` is ignored. By
key they do so whatever values stand for the keys.

Proof: of every request it is known in front of which rows it stands, and the page that it is
answered with holds the first of these. By position these are the rows behind as many pages; by key,
those behind the last row of the pages before. One induction on the rows that are left serves both
walks. -/
theorem walks_whole_table {R K : Type} [LinearOrder K] (database : Database R K) (dialect : Dialect)
    (table : TableRef) (field : String)
    (keyed : Keyed (database.cell (Text.trimmed field)) (database.rows table))
    (named : Text.isBlankText field = false) (limit : UInt64) (positive : limit ≠ 0)
    (given : R → Param)
    (bound : ∀ row ∈ database.rows table,
      database.value (given row) = database.cell (Text.trimmed field) row)
    (start : Position) (starts : start = .offset 0 ∨ start = .index 0) (ignored : Option Param) :
    ∃ arranged pages,
      Arranged .ascending (database.cell (Text.trimmed field)) (database.rows table) arranged ∧
      pages.flatten = arranged ∧
      pages.length = (database.rows table).length / limit.toNat + 1 ∧
      ((database.rows table).length / limit.toNat * limit.toNat < Nat.pow 2 63 →
        ∀ walked, Walks database dialect table given
          ⟨.limitOffset, limit, .index 0, field, ignored⟩ walked ↔ walked = pages) ∧
      ∀ walked, Walks database dialect table given
        ⟨.keyset, limit, start, field, none⟩ walked ↔ walked = pages := by
  obtain ⟨arranged, arranges⟩ := Query.exists_arranged (database.cell (Text.trimmed field))
    (database.rows table)
  have some : 0 < limit.toNat := Nat.pos_of_ne_zero fun zero => positive (UInt64.toNat_inj.mp zero)
  have asMany : arranged.length = (database.rows table).length := arranges.1.length_eq
  refine ⟨arranged, pagesOf limit.toNat arranged, arranges, flatten_pages_of some arranged,
    ?_, ?_, ?_⟩
  · rw [length_pages_of, asMany]
  · intro inRange
    rw [← asMany] at inRange
    have stands : AtIndex limit field ignored arranged _ _ := .mk 0 (by omega)
    rw [Nat.zero_mul, List.drop_zero] at stands
    exact (marches_by_position keyed arranges named positive inRange).walks_iff some stands
  · have skips (after : Option Param) :
        Request.Skips ⟨.keyset, limit, start, field, after⟩ 0 := by
      refine ⟨named, positive, ?_, by decide⟩
      rcases starts with rfl | rfl <;> simp [Request.skipped]
    have stands : BehindKey limit start field given arranged _ _ := .mk [] arranged rfl
    exact (marches_by_key positive keyed arranges skips bound).walks_iff some stands

/-- Four rows that are stored in no order, read two at a time: both walks end with an empty page. -/
theorem walks_whole_table_empty_last :
    let database : Database (Int × String) Int :=
      { rows := fun table =>
          if table.name = "t" then [(30, "c"), (-10, "a"), (41, "d"), (20, "b")] else []
        cell := fun column row => if column = "Id" then some row.1 else none
        value := fun param => match param with
          | .int value => some value.toInt
          | _ => none }
    let given : Int × String → Param := fun row => .int (Int64.ofInt row.1)
    let table : TableRef := ⟨none, "t"⟩
    Keyed (database.cell (Text.trimmed " Id ")) (database.rows table) ∧
      Text.isBlankText " Id " = false ∧ (2 : UInt64) ≠ 0 ∧
      (∀ row ∈ database.rows table,
        database.value (given row) = database.cell (Text.trimmed " Id ") row) ∧
      ∃ arranged pages,
        Arranged .ascending (database.cell (Text.trimmed " Id ")) (database.rows table) arranged ∧
        pages.flatten = arranged ∧ pages.length = 3 ∧
        (∀ walked, Walks database .sqlServer table given
          ⟨.limitOffset, 2, .index 0, " Id ", none⟩ walked ↔ walked = pages) ∧
        ∀ walked, Walks database .sqlServer table given
          ⟨.keyset, 2, .index 0, " Id ", none⟩ walked ↔ walked = pages := by
  intro database given table
  have keyed : Keyed (database.cell (Text.trimmed " Id ")) (database.rows table) :=
    ⟨by decide +kernel, by decide +kernel⟩
  have bound : ∀ row ∈ database.rows table,
      database.value (given row) = database.cell (Text.trimmed " Id ") row := by decide +kernel
  obtain ⟨arranged, pages, arranges, whole, count, byPosition, byKey⟩ :=
    walks_whole_table database .sqlServer table " Id " keyed (by decide) 2 (by decide) given bound
      (.index 0) (.inr rfl) none
  exact ⟨keyed, by decide, by decide, bound, arranged, pages, arranges, whole,
    count.trans (by decide), byPosition (by decide), byKey⟩

end SqlAccess.Page
