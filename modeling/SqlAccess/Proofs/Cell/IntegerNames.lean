import SqlAccess.Cell.Postgres
import SqlAccess.NativeType
import SqlAccess.Proofs.Text.LowerCase

/-!
# The names of integer types in PostgreSQL

Two readers look at the name of a type. One finds the logical type of a catalog name, and knows ten
names of integers. The other finds the category by which a cell is decoded, and takes a name for
that of an integer wherever it holds one of two parts, as those of intervals and points do.

Main statement: which names have the category of integers; which of these are integer types, namely
the ten names in any case, with blanks around them and parameters behind them; that no integer type
is missed but for words in its parameters; and that the others lose their values, because null is
made of them where integers are decoded.
-/

namespace SqlAccess

open Text

/-- The names of integers in PostgreSQL. -/
def integerNames : List String :=
  ["smallint", "int2", "smallserial", "integer", "int", "int4", "serial", "bigint", "int8",
   "bigserial"]

/-- The logical types of integers in PostgreSQL, which has none of one byte. -/
def integerTypes : List LogicalType := [.smallInt, .int, .bigInt]

/-- A name with nothing behind it, or with parameters in parentheses, and blanks at most around
these. Parentheses that stay open have the rest between them. -/
def NamedBy (name s : List Char) : Prop :=
  s = name ∨ ∃ blanks inner, blanks.all isBlank = true ∧
    s = name ++ blanks ++ '(' :: inner ∧
    ∀ between behind, inner = between ++ ')' :: behind → ')' ∉ behind →
      behind.all isBlank = true

/-- The name of an integer type, in any case, with blanks around it and parameters behind it. -/
def SpellsInteger (typeName : String) : Prop :=
  ∃ name ∈ integerNames, NamedBy name.toList (lower (trim typeName.toList))

/-- A name that holds, in any case, one of the parts by which integers are told, and none by which
exact decimals are. -/
def MentionsInteger (typeName : String) : Prop :=
  (∃ part ∈ ["int", "serial"], part.toList <:+: lower typeName.toList) ∧
    ∀ part ∈ ["decimal", "numeric", "money"], ¬ part.toList <:+: lower typeName.toList

section Base

variable {name : List Char}

/-- What stands behind the last closing parenthesis of a type. -/
def behindParameters (s : List Char) : List Char :=
  match cutAtLast ')' s with
  | some (_, back) => trim back
  | none => []

/-- Nothing stands behind the parameters of a type exactly when nothing but blanks follow the last
closing parenthesis, if there is one. -/
theorem behind_parameters_eq_nil_iff {front : List Char} (free : ')' ∉ front)
    (inner : List Char) :
    behindParameters (front ++ '(' :: inner) = [] ↔
      ∀ between behind, inner = between ++ ')' :: behind → ')' ∉ behind →
        behind.all isBlank = true := by
  cases cut : cutAtLast ')' inner with
  | none =>
    have absent : ')' ∉ inner := cut_at_last_eq_none_iff.mp cut
    have whole : cutAtLast ')' (front ++ '(' :: inner) = none := by
      rw [cut_at_last_eq_none_iff, List.mem_append, List.mem_cons]
      rintro (before | opening | inside)
      · exact free before
      · exact absurd opening (by decide)
      · exact absent inside
    simp only [behindParameters, whole, true_iff]
    rintro between behind rfl _
    simp at absent
  | some halves =>
    obtain ⟨rfl, last⟩ := cut_at_last_eq_some_iff.mp cut
    have whole : cutAtLast ')' (front ++ '(' :: (halves.1 ++ ')' :: halves.2)) =
        some (front ++ '(' :: halves.1, halves.2) := by
      rw [cut_at_last_eq_some_iff]
      exact ⟨by simp, last⟩
    simp only [behindParameters, whole, trim_eq_nil_iff]
    constructor
    · intro blank between behind same free
      have again := cut_at_last_append between free
      rw [← same, cut] at again
      cases again
      exact blank
    · intro blank
      exact blank halves.1 halves.2 rfl last

/-- A type without parentheses is its own name. -/
theorem base_type_name_of_uncut {typeName : String}
    (uncut : cutAt '(' (lower (trim typeName.toList)) = none) :
    baseTypeName typeName = String.ofList (lower (trim typeName.toList)) := by
  simp only [baseTypeName, uncut]

/-- The name of a type with parentheses stands in front of them, and behind them if anything
does. -/
theorem base_type_name_of_cut {typeName : String} {front inner : List Char}
    (cut : cutAt '(' (lower (trim typeName.toList)) = some (front, inner)) :
    baseTypeName typeName = String.ofList
      (if (behindParameters (lower (trim typeName.toList))).isEmpty then trimEnd front
        else trimEnd front ++ ' ' :: behindParameters (lower (trim typeName.toList))) := by
  simp only [baseTypeName, cut]
  rfl

/-- No blank put behind a name adds a character that shows. -/
theorem not_mem_append_blank {blanks : List Char} (blank : blanks.all isBlank = true) {c : Char}
    (mark : isBlank c = false) (absent : c ∉ name) : c ∉ name ++ blanks := by
  rw [List.mem_append]
  rintro (inside | behind)
  · exact absent inside
  · rw [List.all_eq_true.mp blank c behind] at mark
    cases mark

/-- Without parentheses only the name itself is named by it. -/
theorem named_by_of_uncut {s : List Char} (free : '(' ∉ s) : NamedBy name s ↔ s = name := by
  constructor
  · rintro (same | ⟨blanks, inner, _, rfl, _⟩)
    · exact same
    · simp at free
  · exact Or.inl

/-- With parentheses a type is named by what stands in front of them, if nothing stands behind. -/
theorem named_by_of_cut {front inner : List Char}
    (ink : ∀ c ∈ name, isBlank c = false ∧ c ≠ '(' ∧ c ≠ ')') (first : '(' ∉ front) :
    NamedBy name (front ++ '(' :: inner) ↔
      trimEnd front = name ∧ behindParameters (front ++ '(' :: inner) = [] := by
  have noOpening : '(' ∉ name := fun member => (ink '(' member).2.1 rfl
  have noClosing {blanks : List Char} (blank : blanks.all isBlank = true) :
      ')' ∉ name ++ blanks :=
    not_mem_append_blank blank (by decide) fun member => (ink ')' member).2.2 rfl
  constructor
  · rintro (same | ⟨blanks, others, blank, same, ends⟩)
    · rw [← same] at noOpening
      simp at noOpening
    · obtain ⟨rfl, rfl⟩ :=
        append_cons_inj first (not_mem_append_blank blank (by decide) noOpening) same
      refine ⟨?_, (behind_parameters_eq_nil_iff (noClosing blank) inner).mpr ends⟩
      rw [trim_end_append_blank blank, trim_end_eq_self]
      intro c last
      exact (ink c (List.mem_of_getLast? last)).1
  · rintro ⟨base, nothing⟩
    obtain ⟨blanks, ends, blank⟩ := exists_behind_trim_end front
    rw [base] at ends
    subst ends
    exact .inr ⟨blanks, inner, blank, rfl,
      (behind_parameters_eq_nil_iff (noClosing blank) inner).mp nothing⟩

/-- What stands in front of the parameters of a type is its name exactly when the type is named by
it: for a name without blanks and parentheses. -/
theorem base_type_name_eq_iff (typeName : String)
    (ink : ∀ c ∈ name, isBlank c = false ∧ c ≠ '(' ∧ c ≠ ')') :
    baseTypeName typeName = String.ofList name ↔ NamedBy name (lower (trim typeName.toList)) := by
  cases cut : cutAt '(' (lower (trim typeName.toList)) with
  | none =>
    rw [base_type_name_of_uncut cut, named_by_of_uncut (cut_at_eq_none_iff.mp cut)]
    exact ⟨fun same => String.ofList_injective same, congrArg _⟩
  | some halves =>
    obtain ⟨front, inner⟩ := halves
    obtain ⟨whole, first⟩ := cut_at_eq_some_iff.mp cut
    rw [base_type_name_of_cut cut, whole, named_by_of_cut ink first]
    split
    · rename_i nothing
      rw [and_iff_left (List.isEmpty_iff.mp nothing)]
      exact ⟨fun same => String.ofList_injective same, congrArg _⟩
    · rename_i something
      constructor
      · intro same
        have base := String.ofList_injective same
        exact absurd (ink ' ' (base ▸ by simp)).1 (by decide)
      · rintro ⟨_, nothing⟩
        exact absurd (List.isEmpty_iff.mpr nothing) something

end Base

section Logical

/-- A catalog name has the type of an integer exactly when what stands in front of its parameters is
one of the names. -/
theorem logical_type_mem_iff (typeName : String) :
    Dialect.postgres.logicalType typeName ∈ integerTypes ↔
      baseTypeName typeName ∈ integerNames := by
  unfold Dialect.logicalType
  generalize baseTypeName typeName = base
  constructor
  · intro integer
    cases found : Dialect.postgres.typeNames.lookup base with
    | none =>
      rw [found] at integer
      exact absurd integer (by decide)
    | some logical =>
      rw [found, Option.getD_some] at integer
      obtain ⟨before, behind, listed, _⟩ := List.lookup_eq_some_iff.mp found
      have entries : Dialect.postgres.typeNames.all (fun entry =>
          decide (entry.2 ∈ integerTypes → entry.1 ∈ integerNames)) = true := by decide
      have entry := List.all_eq_true.mp entries (base, logical) (by rw [listed]; simp)
      exact of_decide_eq_true entry integer
  · intro named
    have types : integerNames.all (fun name => decide
        ((Dialect.postgres.typeNames.lookup name).getD .other ∈ integerTypes)) = true := by decide
    exact of_decide_eq_true (List.all_eq_true.mp types base named)

/-- The logical types of integers are those of the names of integers. -/
theorem logical_type_mem_iff_spells (typeName : String) :
    Dialect.postgres.logicalType typeName ∈ integerTypes ↔ SpellsInteger typeName := by
  have ink : integerNames.all (fun name => name.toList.all fun c =>
      decide (isBlank c = false ∧ c ≠ '(' ∧ c ≠ ')')) = true := by decide
  have named (name : String) (listed : name ∈ integerNames) :
      baseTypeName typeName = name ↔ NamedBy name.toList (lower (trim typeName.toList)) := by
    have plain := List.all_eq_true.mp ink name listed
    have base := base_type_name_eq_iff typeName (forall_mem_of_all plain)
    rwa [String.ofList_toList] at base
  rw [logical_type_mem_iff, SpellsInteger]
  constructor
  · intro listed
    exact ⟨baseTypeName typeName, listed, (named _ listed).mp rfl⟩
  · rintro ⟨name, listed, spelled⟩
    exact (named name listed).mpr spelled ▸ listed

end Logical

section Mentioned

/-- A name has some of the parts exactly when one of them is a stretch of it. -/
theorem has_part_iff {parts : List String} {name : String} :
    Category.hasPart parts name = true ↔ ∃ part ∈ parts, part.toList <:+: name.toList := by
  simp only [Category.hasPart, List.any_eq_true, mentions, contains_iff]

/-- The category of integers is that of the names that mention them. -/
theorem of_type_name_eq_integer_iff (typeName : String) :
    Category.ofTypeName .postgres typeName = .integer ↔ MentionsInteger typeName := by
  have parts (name : String) :
      (∀ part ∈ ["decimal", "numeric", "money"], ¬ part.toList <:+: name.toList) ↔
        Category.hasPart ["decimal", "numeric", "money"] name = false := by
    rw [← Bool.not_eq_true, has_part_iff]
    simp only [not_exists, not_and]
  have lowered : lower typeName.toList = (lowered typeName).toList := by simp [lowered]
  rw [MentionsInteger, lowered, parts, ← has_part_iff, Category.ofTypeName]
  generalize Text.lowered typeName = name
  unfold Category.ofLowered
  cases decimals : Category.hasPart ["decimal", "numeric", "money"] name with
  | true => simp
  | false =>
    cases integers : Category.hasPart ["int", "serial"] name with
    | true =>
      -- no name of a truth value holds a part of those of integers
      have unmentioned : ["bool", "boolean", "bit"].all (fun name =>
          !Category.hasPart ["int", "serial"] name) = true := by decide
      have flagless : ["bool", "boolean", "bit"].contains name = false := by
        rw [Bool.eq_false_iff]
        intro flag
        have absent := List.all_eq_true.mp unmentioned name (List.contains_iff_mem.mp flag)
        rw [integers] at absent
        cases absent
      simp only [flagless, Bool.false_eq_true, if_false, if_true, and_self]
    | false =>
      simp only [Bool.false_eq_true, if_false, false_and, iff_false]
      repeat' split
      all_goals exact Category.noConfusion

/-- What spells an integer mentions it, unless a word of its parameters says otherwise. -/
theorem MentionsInteger.of_spells {typeName : String} (spells : SpellsInteger typeName)
    (inexact : ∀ part ∈ ["decimal", "numeric", "money"],
      ¬ part.toList <:+: lower typeName.toList) : MentionsInteger typeName := by
  obtain ⟨name, listed, spelled⟩ := spells
  have parts : integerNames.all (fun name => Category.hasPart ["int", "serial"] name) = true := by
    decide
  obtain ⟨part, among, inName⟩ := has_part_iff.mp (List.all_eq_true.mp parts name listed)
  have inTrimmed : name.toList <:+: lower (trim typeName.toList) := by
    rcases spelled with same | ⟨blanks, inner, _, same, _⟩
    · exact ⟨[], [], (List.append_nil _).trans same.symm⟩
    · rw [same, List.append_assoc]
      exact (List.prefix_append _ _).isInfix
  have inWhole : lower (trim typeName.toList) <:+: lower typeName.toList := by
    obtain ⟨front, back, whole, frontBlank, backBlank⟩ := exists_spaced typeName.toList
    have spaced := lower_spaced frontBlank backBlank (trim typeName.toList)
    rw [← whole] at spaced
    exact ⟨front, back, spaced.symm⟩
  exact ⟨⟨part, among, inName.trans (inTrimmed.trans inWhole)⟩, inexact⟩

/-- The types whose integers are decoded are spelled as integers. -/
theorem spells_integer_of_width {typeName : String} {width : Nat}
    (decodes : Cell.Postgres.integerWidth? typeName = some width) : SpellsInteger typeName := by
  unfold Cell.Postgres.integerWidth? at decodes
  split at decodes
  · exact ⟨"int2", by decide, .inl (by decide)⟩
  · exact ⟨"int4", by decide, .inl (by decide)⟩
  · exact ⟨"int8", by decide, .inl (by decide)⟩
  · cases decodes

/-- Null is made of every value that is decoded as an integer and whose type is none. -/
theorem of_value?_eq_null {typeName : String} (mentions : MentionsInteger typeName)
    (foreign : ¬ SpellsInteger typeName) (value : Option (List UInt8)) :
    Cell.Postgres.ofValue? typeName value = some .null := by
  have category := (of_type_name_eq_integer_iff typeName).mpr mentions
  have undecoded : Cell.Postgres.integerWidth? typeName = none := by
    rw [Option.eq_none_iff_forall_ne_some]
    intro width decodes
    exact foreign (spells_integer_of_width decodes)
  cases value with
  | none => rfl
  | some bytes =>
    rw [Cell.Postgres.ofValue?, Cell.Postgres.ofBytes?, category, undecoded]
    rfl

end Mentioned

/-- How the two readers of type names agree about integers, for every name. The category of integers
is that of the names that mention them. Of these names the ten of integers have the types of
integers, and no others have; of the others every value is lost. No integer type has another
category, unless a word in its parameters is one of decimals.

Proof: each reader is characterized on its own, the one by the parts of a name, the other by its
base name against a list. The conditions are then compared; under a name that mentions integers and
is not in the list every value is read as NULL. -/
theorem integers_told_apart (typeName : String) :
    (Category.ofTypeName .postgres typeName = .integer ↔ MentionsInteger typeName) ∧
      (Category.ofTypeName .postgres typeName = .integer →
        (Dialect.postgres.logicalType typeName ∈ integerTypes ↔ SpellsInteger typeName) ∧
          (¬ SpellsInteger typeName →
            ∀ value, Cell.Postgres.ofValue? typeName value = some .null)) ∧
        (Dialect.postgres.logicalType typeName ∈ integerTypes →
          (∀ part ∈ ["decimal", "numeric", "money"],
            ¬ part.toList <:+: lower typeName.toList) →
            Category.ofTypeName .postgres typeName = .integer) := by
  have category := of_type_name_eq_integer_iff typeName
  have logical := logical_type_mem_iff_spells typeName
  refine ⟨category, fun integer => ⟨logical, fun foreign => ?_⟩, fun typed inexact => ?_⟩
  · exact of_value?_eq_null (category.mp integer) foreign
  · exact category.mpr (.of_spells (logical.mp typed) inexact)

/-- An interval has the category of integers and is no integer type, and every interval is lost. -/
theorem interval_lost :
    Category.ofTypeName .postgres "INTERVAL" = .integer ∧
      Dialect.postgres.logicalType "INTERVAL" = .other ∧
        ∀ value, Cell.Postgres.ofValue? "INTERVAL" value = some .null := by
  have category : Category.ofTypeName .postgres "INTERVAL" = .integer := by decide
  refine ⟨category, by decide, fun value => ?_⟩
  cases value with
  | none => rfl
  | some bytes =>
    rw [Cell.Postgres.ofValue?, Cell.Postgres.ofBytes?, category]
    rfl

end SqlAccess
