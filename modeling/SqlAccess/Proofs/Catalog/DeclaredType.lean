import SqlAccess.Catalog.ColumnFacts
import SqlAccess.Proofs.Decimal.Digits
import SqlAccess.Proofs.Text.AsciiCase
import SqlAccess.Proofs.Text.Trim

/-!
# Declared types of SQLite

A column of SQLite may be declared with any text for its type. Where the text names a known type,
the column gets a native type in its place. Main statement: a native type is settled. A column that
is declared with it has it as its native type, and the numbers that stand in it are the ones that
the column reports. A text that names no known type is its own native type.

A native type is in lower case and has one pair of parentheses at most, at its end. So what stands
before them is the name, and what stands between them is cut at the comma. Numbers of the first
declaration that are not shown, because they were too great or not above zero, leave no trace.
-/

namespace SqlAccess.Catalog

open Text Decimal

variable {name inner : List Char}

/-- The name in front of parentheses at the end of a type, all in lower case. -/
theorem base_type_name_parenthesized (nonempty : name ≠ []) (trimmed : Trimmed name)
    (free : '(' ∉ name) (small : ∀ c ∈ name, IsSmall c)
    (smallInner : ∀ c ∈ inner, IsSmall c) :
    baseTypeName (String.ofList (name ++ '(' :: (inner ++ [')']))) = String.ofList name := by
  have whole : name ++ '(' :: (inner ++ [')']) = name ++ ('(' :: inner) ++ [')'] := by simp
  have lower : Text.lower (Text.trim (name ++ '(' :: (inner ++ [')']))) =
      name ++ '(' :: (inner ++ [')']) := by
    have ends : Trimmed [')'] :=
      trimmed_of_forall (List.forall_mem_singleton.mpr (by decide))
    rw [whole, (trimmed.around ends nonempty (List.cons_ne_nil _ _) _).trim_eq]
    apply lower_from_of_small
    intro c member
    simp only [List.mem_append, List.mem_cons, List.not_mem_nil, or_false] at member
    rcases member with (inName | opening | inInner) | closing
    · exact small c inName
    · exact opening ▸ by decide
    · exact smallInner c inInner
    · exact closing ▸ by decide
  have front : cutAt '(' (name ++ '(' :: (inner ++ [')'])) = some (name, inner ++ [')']) :=
    cut_at_append free _
  have back : cutAtLast ')' (name ++ '(' :: (inner ++ [')'])) =
      some (name ++ '(' :: inner, []) := by
    rw [whole]
    exact cut_at_last_append _ List.not_mem_nil
  simp only [baseTypeName, String.toList_ofList, lower, front, back]
  rw [trim_end_eq_self trimmed.ends]
  rfl

/-- The name of a type without parentheses, in lower case. -/
theorem base_type_name_bare (trimmed : Trimmed name) (free : '(' ∉ name)
    (small : ∀ c ∈ name, IsSmall c) :
    baseTypeName (String.ofList name) = String.ofList name := by
  have lower : Text.lower (Text.trim name) = name := by
    rw [trimmed.trim_eq]
    exact lower_from_of_small small []
  simp only [baseTypeName, String.toList_ofList, lower, cut_at_eq_none_iff.mpr free]

/-- The numbers between parentheses at the end of a type. -/
theorem declared_parameters_parenthesized (free : '(' ∉ name) (inner : List Char) :
    declaredParameters (name ++ '(' :: (inner ++ [')'])) =
      let numbers := (splitOn ',' inner).map fun piece => int64Value? (trim piece)
      (numbers.head?.join, numbers[1]?.join) := by
  have closed : cutAtLast ')' (inner ++ [')']) = some (inner, []) :=
    cut_at_last_append inner List.not_mem_nil
  simp only [declaredParameters, cut_at_append free, closed]

/-- What holds of the sign and the digits holds of all that is written of an integer. -/
theorem forall_mem_of_int {p : Char → Prop} [DecidablePred p]
    (decided : "-0123456789".toList.all (fun c => decide (p c)) = true) (i : Int) :
    ∀ c ∈ ofInt i, p c :=
  fun _ member => Text.forall_mem_of_all decided _ (mem_of_int member)

/-- What is written of an integer is in lower case. -/
theorem small_of_int (i : Int) : ∀ c ∈ ofInt i, IsSmall c := forall_mem_of_int (by decide) i

/-- So are two integers with a comma between them. -/
theorem small_two (i j : Int) : ∀ c ∈ ofInt i ++ ',' :: ' ' :: ofInt j, IsSmall c :=
  List.forall_mem_append.mpr ⟨small_of_int i, List.forall_mem_cons.mpr
    ⟨by decide, List.forall_mem_cons.mpr ⟨by decide, small_of_int j⟩⟩⟩

/-- What is written of an integer is trimmed. -/
theorem trimmed_of_int (i : Int) : Trimmed (ofInt i) :=
  trimmed_of_forall (forall_mem_of_int (by decide) i)

/-- There is no comma in an integer. -/
theorem comma_not_mem_of_int (i : Int) : ',' ∉ ofInt i := fun member =>
  forall_mem_of_int (p := (· ≠ ',')) (by decide) i ',' member rfl

/-- Without parentheses there are no numbers. -/
theorem declared_parameters_bare (free : '(' ∉ name) :
    declaredParameters name = (none, none) := by
  simp only [declaredParameters, cut_at_eq_none_iff.mpr free]

/-- A text with parentheses behind a name. -/
theorem append_parenthesized (name : String) (inner : List Char) :
    name ++ "(" ++ String.ofList inner ++ ")" =
      String.ofList (name.toList ++ '(' :: (inner ++ [')'])) := by
  apply String.toList_inj.mp
  simp

/-- Two numbers in parentheses behind a name. -/
theorem append_two (name : String) (i j : Int) :
    name ++ "(" ++ intText i ++ ", " ++ intText j ++ ")" =
      name ++ "(" ++ String.ofList (ofInt i ++ ',' :: ' ' :: ofInt j) ++ ")" := by
  apply String.toList_inj.mp
  simp [intText]

/-- One number between parentheses. -/
theorem declared_parameters_one {name : String} (free : '(' ∉ name.toList) (i : Int) :
    declaredParameters (name ++ "(" ++ intText i ++ ")").toList =
      (int64Value? (ofInt i), none) := by
  rw [intText, append_parenthesized, String.toList_ofList, declared_parameters_parenthesized free,
    split_on_of_not_mem (comma_not_mem_of_int i)]
  simp [(trimmed_of_int i).trim_eq]

/-- Two numbers between parentheses. -/
theorem declared_parameters_two {name : String} (free : '(' ∉ name.toList) (i j : Int) :
    declaredParameters (name ++ "(" ++ intText i ++ ", " ++ intText j ++ ")").toList =
      (int64Value? (ofInt i), int64Value? (ofInt j)) := by
  have second : ',' ∉ ' ' :: ofInt j :=
    List.not_mem_cons_of_ne_of_not_mem (by decide) (comma_not_mem_of_int j)
  have spaced : trim (' ' :: ofInt j) = ofInt j := by
    have blank : [' '].all isBlank = true := by decide
    have visible := trim_spaced blank List.all_nil (ofInt j)
    rwa [List.append_nil, List.singleton_append, (trimmed_of_int j).trim_eq] at visible
  rw [append_two, append_parenthesized, String.toList_ofList,
    declared_parameters_parenthesized free, split_on_append,
    split_on_of_not_mem (comma_not_mem_of_int i), split_on_of_not_mem second]
  simp [(trimmed_of_int i).trim_eq, spaced]

/-- What 32 bits hold is narrowed to itself. -/
theorem narrow?_to_int (i : Int32) : narrow? i.toInt = some i := by
  have below := Int32.toInt_lt i
  have above := Int32.le_toInt i
  have fits : fitsSigned 32 i.toInt = true := by
    simp only [fitsSigned, Bool.and_eq_true, decide_eq_true_eq]
    exact ⟨below, above⟩
  rw [narrow?, if_pos fits, Int32.ofInt_toInt]

/-- A number of 32 bits is read back. -/
theorem int64_value?_to_int32 (i : Int32) : int64Value? (ofInt i.toInt) = some i.toInt := by
  have below := Int32.toInt_lt i
  have above := Int32.le_toInt i
  apply int64_value?_of_int
  simp [fitsSigned]
  omega

section Facts

variable {row : Row}

/-- The numbers that a row gives its column. -/
def parametersOf (row : Row) : TypeParameters :=
  ⟨(sqliteFacts row).boundedLength, (sqliteFacts row).precision, (sqliteFacts row).scale⟩

/-- The native type that a row gives its column: the declaration of its logical type, or the
declared type as it stands. A length of minus one makes bounded text unbounded, and so it is
declared without a length in any case. -/
theorem native_type_sqlite_facts (row : Row) :
    (sqliteFacts row).nativeType .sqlite =
      match sqliteRendering (Dialect.sqlite.logicalType (textOf row "type")) with
      | none => textOf row "type"
      | some rendering => rendering.declare (parametersOf row) := by
  have declared : (sqliteFacts row).catalogType = textOf row "type" := rfl
  by_cases unbounded : (sqliteFacts row).maxLength = some ColumnFacts.unbounded ∧
      Dialect.sqlite.logicalType (textOf row "type") = .string
  · have text : (sqliteFacts row).logicalType .sqlite = .text := by
      rw [ColumnFacts.logicalType, declared, if_pos unbounded]
    have noLength : (sqliteFacts row).boundedLength = none := by
      rw [ColumnFacts.boundedLength, unbounded.1]
      rfl
    rw [ColumnFacts.nativeType, text, unbounded.2, parametersOf, noLength]
    simp [Dialect.nativeType, Dialect.rendering, sqliteRendering, Rendering.declare,
      Rendering.positive?]
  · have logical : (sqliteFacts row).logicalType .sqlite =
        Dialect.sqlite.logicalType (textOf row "type") := by
      rw [ColumnFacts.logicalType, declared, if_neg unbounded]
    rw [ColumnFacts.nativeType, logical, declared]
    cases Dialect.sqlite.logicalType (textOf row "type") <;>
      simp only [reduceCtorEq, if_true, if_false, Dialect.nativeType, Dialect.rendering,
        sqliteRendering, parametersOf]

/-- What a row gives its column follows from the name and the numbers of the declared type. -/
theorem parameters_of_eq {declared : String} (typed : textOf row "type" = declared)
    {logical : LogicalType} (known : Dialect.sqlite.logicalType declared = logical)
    {first second : Option Int} (numbers : declaredParameters declared.toList = (first, second)) :
    parametersOf row =
      ⟨(if logical.isString then first.map Int64.ofInt else none).filter
          fun length => length != ColumnFacts.unbounded,
        if logical = .decimal then first.bind narrow? else none,
        if logical = .decimal then second.bind narrow? else none⟩ := by
  subst typed known
  simp only [parametersOf, ColumnFacts.boundedLength, sqliteFacts, numbers]

section Native

/-- No parameter does not count. -/
theorem positive?_none : Rendering.positive? none = none := rfl

/-- A parameter above zero counts. -/
theorem positive?_some {n : Int} (positive : 0 < n) : Rendering.positive? (some n) = some n := by
  rw [Rendering.positive?, Option.filter_some, if_pos (decide_eq_true positive)]

/-- A parameter counts where it is there and above zero. -/
theorem positive?_cases (parameter : Option Int) :
    Rendering.positive? parameter = none ∨
      ∃ n, parameter = some n ∧ 0 < n ∧ Rendering.positive? parameter = some n := by
  cases counts : Rendering.positive? parameter with
  | none => exact .inl rfl
  | some n =>
    obtain ⟨isParameter, positive⟩ := Option.filter_eq_some_iff.mp counts
    exact .inr ⟨n, isParameter, of_decide_eq_true positive, rfl⟩

/-- The native types of SQLite, with the numbers that they show. -/
inductive Native : String → TypeParameters → Prop
  | plain {logical : LogicalType} {name : String}
    (named : sqliteRendering logical = some (.plain name)) : Native name ⟨none, none, none⟩
  | unsized : Native "numeric" ⟨none, none, none⟩
  | sized {length : Int64} (positive : 0 < length.toInt) :
    Native ("varchar" ++ "(" ++ intText length.toInt ++ ")") ⟨some length, none, none⟩
  | precise {precision : Int32} (positive : 0 < precision.toInt) :
    Native ("numeric" ++ "(" ++ intText precision.toInt ++ ")") ⟨none, some precision, none⟩
  | scaled {precision scale : Int32} (positive : 0 < precision.toInt)
    (positiveScale : 0 < scale.toInt) :
    Native ("numeric" ++ "(" ++ intText precision.toInt ++ ", " ++ intText scale.toInt ++ ")")
      ⟨none, some precision, some scale⟩

/-- What takes a length is declared without a bound or with one. -/
theorem declare_sized (name unbounded : String) (parameters : TypeParameters) :
    (Rendering.sized name unbounded).declare parameters = unbounded ∨
      ∃ length : Int64, 0 < length.toInt ∧ (Rendering.sized name unbounded).declare parameters =
        name ++ "(" ++ intText length.toInt ++ ")" := by
  rcases positive?_cases (parameters.length.map Int64.toInt) with
    missing | ⟨n, isLength, positive, counts⟩
  · exact .inl (by rw [Rendering.declare, missing])
  · obtain ⟨length, _, rfl⟩ := Option.map_eq_some_iff.mp isLength
    exact .inr ⟨length, positive, by rw [Rendering.declare, counts]⟩

/-- What takes a precision is declared without numbers, with one or with two. -/
theorem declare_precise (name : String) (parameters : TypeParameters) :
    (Rendering.precise name).declare parameters = name ∨
      (∃ precision : Int32, 0 < precision.toInt ∧
        (Rendering.precise name).declare parameters =
          name ++ "(" ++ intText precision.toInt ++ ")") ∨
      ∃ precision scale : Int32, 0 < precision.toInt ∧ 0 < scale.toInt ∧
        (Rendering.precise name).declare parameters =
          name ++ "(" ++ intText precision.toInt ++ ", " ++ intText scale.toInt ++ ")" := by
  rcases positive?_cases (parameters.precision.map Int32.toInt) with
    missing | ⟨p, isPrecision, positive, counts⟩
  · exact .inl (by rw [Rendering.declare, missing])
  · obtain ⟨precision, _, rfl⟩ := Option.map_eq_some_iff.mp isPrecision
    rcases positive?_cases (parameters.scale.map Int32.toInt) with
      missing | ⟨s, isScale, positiveScale, countsScale⟩
    · exact .inr
        (.inl ⟨precision, positive, by simp only [Rendering.declare, counts, missing]⟩)
    · obtain ⟨scale, _, rfl⟩ := Option.map_eq_some_iff.mp isScale
      exact .inr (.inr ⟨precision, scale, positive, positiveScale, by
        simp only [Rendering.declare, counts, countsScale]⟩)

/-- Every declaration of a logical type is a native type. -/
theorem native_declare {logical : LogicalType} {rendering : Rendering}
    (declares : sqliteRendering logical = some rendering) (parameters : TypeParameters) :
    ∃ shown, Native (rendering.declare parameters) shown := by
  cases rendering with
  | plain name => exact ⟨_, .plain declares⟩
  | sized name unbounded =>
    obtain ⟨rfl, rfl⟩ : name = "varchar" ∧ unbounded = "text" := by
      cases logical <;> cases declares
      exact ⟨rfl, rfl⟩
    rcases declare_sized "varchar" "text" parameters with text | ⟨length, positive, text⟩ <;>
      rw [text]
    · exact ⟨_, .plain (show sqliteRendering .text = some (.plain "text") from rfl)⟩
    · exact ⟨_, .sized positive⟩
  | precise name =>
    obtain rfl : name = "numeric" := by
      cases logical <;> cases declares
      rfl
    rcases declare_precise "numeric" parameters with
      text | ⟨precision, positive, text⟩ |
        ⟨precision, scale, positive, positiveScale, text⟩ <;>
      rw [text]
    · exact ⟨_, .unsized⟩
    · exact ⟨_, .precise positive⟩
    · exact ⟨_, .scaled positive positiveScale⟩

/-- A plain name is known by itself, and there are no parentheses in it. -/
theorem plain_known {logical : LogicalType} {name : String}
    (named : sqliteRendering logical = some (.plain name)) :
    sqliteRendering (Dialect.sqlite.logicalType name) = some (.plain name) ∧
      '(' ∉ name.toList := by
  cases logical <;> cases named <;> exact ⟨by decide, by decide⟩

/-- Parentheses with integers and blanks in them do not hide a name. -/
theorem logical_type_parenthesized {name : String} {inner : List Char}
    (nonempty : name.toList ≠ [])
    (ink : ∀ c ∈ name.toList, isBlank c = false ∧ IsSmall c ∧ c ≠ '(')
    (smallInner : ∀ c ∈ inner, IsSmall c) :
    Dialect.sqlite.logicalType (name ++ "(" ++ String.ofList inner ++ ")") =
      Dialect.sqlite.logicalType name := by
  have trimmed : Trimmed name.toList := trimmed_of_forall fun c member => (ink c member).1
  have free : '(' ∉ name.toList := fun member => (ink '(' member).2.2 rfl
  have small : ∀ c ∈ name.toList, IsSmall c := fun c member => (ink c member).2.1
  have bare := base_type_name_bare trimmed free small
  rw [String.ofList_toList] at bare
  rw [Dialect.logicalType, Dialect.logicalType, append_parenthesized,
    base_type_name_parenthesized nonempty trimmed free small smallInner, bare, String.ofList_toList]

/-- Bounded text is known with parentheses behind its name. -/
theorem logical_type_varchar {inner : List Char} (small : ∀ c ∈ inner, IsSmall c) :
    Dialect.sqlite.logicalType ("varchar" ++ "(" ++ String.ofList inner ++ ")") = .string := by
  rw [logical_type_parenthesized (by decide) (forall_mem_of_all (by decide)) small]
  decide

/-- So is a decimal. -/
theorem logical_type_numeric {inner : List Char} (small : ∀ c ∈ inner, IsSmall c) :
    Dialect.sqlite.logicalType ("numeric" ++ "(" ++ String.ofList inner ++ ")") = .decimal := by
  rw [logical_type_parenthesized (by decide) (forall_mem_of_all (by decide)) small]
  decide

/-- A row gives its column the declared type as its native type where the numbers that it gives are
declared in this way. -/
theorem read_of_declare {text : String} {rendering : Rendering} {shown : TypeParameters}
    (typed : textOf row "type" = text)
    (renders : sqliteRendering (Dialect.sqlite.logicalType text) = some rendering)
    (parameters : parametersOf row = shown) (declares : rendering.declare shown = text) :
    (sqliteFacts row).nativeType .sqlite = text ∧ parametersOf row = shown := by
  refine ⟨?_, parameters⟩
  rw [native_type_sqlite_facts, typed, renders, parameters]
  exact declares

/-- A length in the declared type is the length of the column. -/
theorem read_sized {length : Int64} (positive : 0 < length.toInt)
    (typed : textOf row "type" = "varchar" ++ "(" ++ intText length.toInt ++ ")") :
    (sqliteFacts row).nativeType .sqlite = "varchar" ++ "(" ++ intText length.toInt ++ ")" ∧
      parametersOf row = ⟨some length, none, none⟩ := by
  have known : Dialect.sqlite.logicalType ("varchar" ++ "(" ++ intText length.toInt ++ ")") =
      .string := logical_type_varchar (small_of_int _)
  have bounded : length ≠ ColumnFacts.unbounded := by
    rintro rfl
    exact absurd positive (by decide)
  have parameters : parametersOf row = ⟨some length, none, none⟩ := by
    rw [parameters_of_eq typed known (declared_parameters_one (by decide) _),
      int64_value?_of_int (fits_to_int length)]
    simp [LogicalType.isString, Option.filter_some, bounded]
  apply read_of_declare typed (congrArg sqliteRendering known) parameters
  simp [Rendering.declare, positive?_some positive]

/-- A precision in the declared type is the precision of the column. -/
theorem read_precise {precision : Int32} (positive : 0 < precision.toInt)
    (typed : textOf row "type" = "numeric" ++ "(" ++ intText precision.toInt ++ ")") :
    (sqliteFacts row).nativeType .sqlite = "numeric" ++ "(" ++ intText precision.toInt ++ ")" ∧
      parametersOf row = ⟨none, some precision, none⟩ := by
  have known : Dialect.sqlite.logicalType ("numeric" ++ "(" ++ intText precision.toInt ++ ")") =
      .decimal := logical_type_numeric (small_of_int _)
  have parameters : parametersOf row = ⟨none, some precision, none⟩ := by
    rw [parameters_of_eq typed known (declared_parameters_one (by decide) _), int64_value?_to_int32]
    simp [LogicalType.isString, narrow?_to_int]
  apply read_of_declare typed (congrArg sqliteRendering known) parameters
  simp [Rendering.declare, positive?_some positive, positive?_none]

/-- A precision and a scale in the declared type are those of the column. -/
theorem read_scaled {precision scale : Int32} (positive : 0 < precision.toInt)
    (positiveScale : 0 < scale.toInt)
    (typed : textOf row "type" =
      "numeric" ++ "(" ++ intText precision.toInt ++ ", " ++ intText scale.toInt ++ ")") :
    (sqliteFacts row).nativeType .sqlite =
        "numeric" ++ "(" ++ intText precision.toInt ++ ", " ++ intText scale.toInt ++ ")" ∧
      parametersOf row = ⟨none, some precision, some scale⟩ := by
  have known : Dialect.sqlite.logicalType
      ("numeric" ++ "(" ++ intText precision.toInt ++ ", " ++ intText scale.toInt ++ ")") =
        .decimal := by
    rw [append_two]
    exact logical_type_numeric (small_two _ _)
  have parameters : parametersOf row = ⟨none, some precision, some scale⟩ := by
    rw [parameters_of_eq typed known (declared_parameters_two (by decide) _ _),
      int64_value?_to_int32,
      int64_value?_to_int32]
    simp [LogicalType.isString, narrow?_to_int]
  apply read_of_declare typed (congrArg sqliteRendering known) parameters
  simp [Rendering.declare, positive?_some positive, positive?_some positiveScale]

/-- A row whose type is a native type gives its column this type and the numbers in it. -/
theorem Native.read {text : String} {shown : TypeParameters} (native : Native text shown)
    (typed : textOf row "type" = text) :
    (sqliteFacts row).nativeType .sqlite = text ∧ parametersOf row = shown := by
  cases native with
  | plain named =>
    obtain ⟨known, free⟩ := plain_known named
    have parameters := parameters_of_eq typed rfl (declared_parameters_bare free)
    apply read_of_declare typed known _ rfl
    rw [parameters]
    simp
  | unsized =>
    have known : Dialect.sqlite.logicalType "numeric" = .decimal := by decide
    have parameters := parameters_of_eq typed known (declared_parameters_bare (by decide))
    exact read_of_declare typed (congrArg sqliteRendering known) parameters rfl
  | sized positive => exact read_sized positive typed
  | precise positive => exact read_precise positive typed
  | scaled positive positiveScale => exact read_scaled positive positiveScale typed

end Native

section Carried

/-- The types that carry numbers: a length, a precision, or a precision and a scale. -/
inductive Carries : String → Option Int × Option Int × Option Int → Prop
  | length (n : Int) : Carries ("varchar(" ++ intText n ++ ")") (some n, none, none)
  | precision (p : Int) : Carries ("numeric(" ++ intText p ++ ")") (none, some p, none)
  | scale (p s : Int) :
    Carries ("numeric(" ++ intText p ++ ", " ++ intText s ++ ")") (none, some p, some s)

/-- The length, the precision and the scale as numbers. -/
def numbersOf (parameters : TypeParameters) : Option Int × Option Int × Option Int :=
  (parameters.length.map Int64.toInt, parameters.precision.map Int32.toInt,
    parameters.scale.map Int32.toInt)

variable {text : String} {numbers : Option Int × Option Int × Option Int}

/-- What carries numbers is a known name with parentheses behind it. -/
theorem Carries.spelled (carries : Carries text numbers) :
    (∃ n, numbers = (some n, none, none) ∧
      text = "varchar" ++ "(" ++ String.ofList (ofInt n) ++ ")") ∨
    (∃ p, numbers = (none, some p, none) ∧
      text = "numeric" ++ "(" ++ String.ofList (ofInt p) ++ ")") ∨
    ∃ p s, numbers = (none, some p, some s) ∧
      text = "numeric" ++ "(" ++ String.ofList (ofInt p ++ ',' :: ' ' :: ofInt s) ++ ")" := by
  cases carries with
  | length n => exact .inl ⟨n, rfl, rfl⟩
  | precision p => exact .inr (.inl ⟨p, rfl, rfl⟩)
  | scale p s => exact .inr (.inr ⟨p, s, rfl, append_two "numeric" p s⟩)

/-- Two texts with parentheses at their ends that are the same are so in front of them and between
them. -/
theorem parenthesized_inj {name other : String} {inner innerOther : List Char}
    (free : '(' ∉ name.toList) (freeOther : '(' ∉ other.toList)
    (same : name ++ "(" ++ String.ofList inner ++ ")" =
      other ++ "(" ++ String.ofList innerOther ++ ")") : name = other ∧ inner = innerOther := by
  rw [append_parenthesized, append_parenthesized, String.ofList_inj] at same
  obtain ⟨names, inners⟩ := append_cons_inj free freeOther same
  exact ⟨String.toList_inj.mp names, List.append_cancel_right inners⟩

/-- One number is never spelled as two. -/
theorem of_int_ne_two (i p s : Int) : ofInt i ≠ ofInt p ++ ',' :: ' ' :: ofInt s := by
  intro same
  apply comma_not_mem_of_int i
  rw [same]
  exact List.mem_append_right _ List.mem_cons_self

/-- A type carries no other numbers than its own. -/
theorem Carries.unique {others : Option Int × Option Int × Option Int}
    (carries : Carries text numbers) (also : Carries text others) : numbers = others := by
  have free : '(' ∉ "varchar".toList := by decide
  have freeToo : '(' ∉ "numeric".toList := by decide
  rcases carries.spelled with ⟨n, rfl, rfl⟩ | ⟨p, rfl, rfl⟩ | ⟨p, s, rfl, rfl⟩ <;>
    rcases also.spelled with ⟨m, rfl, same⟩ | ⟨q, rfl, same⟩ | ⟨q, t, rfl, same⟩
  · obtain ⟨_, inners⟩ := parenthesized_inj free free same
    rw [of_int_injective inners]
  · exact absurd (parenthesized_inj free freeToo same).1 (by decide)
  · exact absurd (parenthesized_inj free freeToo same).1 (by decide)
  · exact absurd (parenthesized_inj freeToo free same).1 (by decide)
  · obtain ⟨_, inners⟩ := parenthesized_inj freeToo freeToo same
    rw [of_int_injective inners]
  · exact absurd (parenthesized_inj freeToo freeToo same).2 (of_int_ne_two p q t)
  · exact absurd (parenthesized_inj freeToo free same).1 (by decide)
  · exact absurd (parenthesized_inj freeToo freeToo same).2.symm (of_int_ne_two q p s)
  · obtain ⟨_, inners⟩ := parenthesized_inj freeToo freeToo same
    obtain ⟨first, rest⟩ :=
      append_cons_inj (comma_not_mem_of_int p) (comma_not_mem_of_int q) inners
    rw [of_int_injective first, of_int_injective (List.cons.inj rest).2]

/-- A type that carries numbers is known. -/
theorem Carries.known (carries : Carries text numbers) :
    sqliteRendering (Dialect.sqlite.logicalType text) ≠ none := by
  rcases carries.spelled with ⟨n, _, rfl⟩ | ⟨p, _, rfl⟩ | ⟨p, s, _, rfl⟩
  · rw [logical_type_varchar (small_of_int n)]
    decide
  · rw [logical_type_numeric (small_of_int p)]
    decide
  · rw [logical_type_numeric (small_two p s)]
    decide

/-- It has parentheses. -/
theorem Carries.opens (carries : Carries text numbers) : '(' ∈ text.toList := by
  rcases carries.spelled with ⟨n, _, rfl⟩ | ⟨p, _, rfl⟩ | ⟨p, s, _, rfl⟩ <;> simp

/-- The numbers that a native type shows are those that it carries. -/
theorem Native.numbers_eq {shown : TypeParameters} (native : Native text shown)
    (carries : Carries text numbers) : numbersOf shown = numbers := by
  cases native with
  | plain named => exact absurd carries.opens (plain_known named).2
  | unsized => exact absurd carries.opens (by decide)
  | sized positive => exact (Carries.length _).unique carries
  | precise positive => exact (Carries.precision _).unique carries
  | scaled positive positiveScale => exact (Carries.scale _ _).unique carries

end Carried

/-- A row that declares the native type of another one gives its column the same native type, and
the numbers that are carried by it. -/
theorem settled_of_typed {declared : Row}
    (typed : textOf declared "type" = (sqliteFacts row).nativeType .sqlite) :
    (sqliteFacts declared).nativeType .sqlite = (sqliteFacts row).nativeType .sqlite ∧
      ∀ numbers, Carries ((sqliteFacts row).nativeType .sqlite) numbers →
        numbersOf (parametersOf declared) = numbers := by
  have isNative := native_type_sqlite_facts row
  generalize (sqliteFacts row).nativeType .sqlite = native at typed isNative ⊢
  cases known : sqliteRendering (Dialect.sqlite.logicalType (textOf row "type")) with
  | none =>
    rw [known] at isNative
    have same : textOf declared "type" = textOf row "type" := typed.trans isNative
    refine ⟨?_, ?_⟩
    · rw [native_type_sqlite_facts, same, known, isNative]
    · intro numbers carries
      rw [isNative] at carries
      exact absurd known carries.known
  | some rendering =>
    rw [known] at isNative
    dsimp only at isNative
    obtain ⟨shown, isShown⟩ := native_declare known (parametersOf row)
    rw [← isNative] at isShown
    obtain ⟨stays, read⟩ := isShown.read typed
    refine ⟨stays, ?_⟩
    intro numbers carries
    rw [read, isShown.numbers_eq carries]

/-- What becomes of a column whose type was declared anew as the native type that it had. -/
structure Settled (column again : Column) : Prop where
  /-- The native type stays. -/
  nativeType : again.nativeType = column.nativeType
  /-- The numbers that it carries are those that the column reports. -/
  numbers : ∀ numbers, Carries column.nativeType numbers →
    (again.maxLength.map Int64.toInt, again.precision.map Int32.toInt,
      again.scale.map Int32.toInt) = numbers

/-- A cell that was put into a row as text reads as that text. -/
theorem text_of_put (row : Row) (column text : String) :
    textOf (Fields.put row column (.string text)) column = text := by
  rw [textOf, Row.text?, Fields.get?_put_self]
  simp only [Option.getD_some]

/-- The facts of a row of SQLite. -/
theorem column_facts_sqlite (row : Row) : columnFacts .sqlite row = sqliteFacts row := rfl

/-- The numbers of a column are those of the facts about it. -/
theorem numbers_of_describe (facts : ColumnFacts) :
    ((facts.describe .sqlite).maxLength.map Int64.toInt,
      (facts.describe .sqlite).precision.map Int32.toInt,
      (facts.describe .sqlite).scale.map Int32.toInt) =
        numbersOf ⟨facts.boundedLength, facts.precision, facts.scale⟩ := by
  simp only [ColumnFacts.describe, numbersOf]

/-- The native type of a column of SQLite is settled: for every row of the catalog, whatever its
declared type is.

Proof: where the declared text names no known type it is its own native type. Otherwise the native
type has one of few forms, a bare name or a name with one or two numbers in parentheses behind it;
each form is read as the type that it was made for and gives its numbers back. -/
theorem native_type_settled (row : Row) :
    let column := (columnFacts .sqlite row).describe .sqlite
    let declared := Fields.put row "type" (.string column.nativeType)
    Settled column ((columnFacts .sqlite declared).describe .sqlite) := by
  have native (facts : ColumnFacts) :
      (facts.describe .sqlite).nativeType = facts.nativeType .sqlite := rfl
  simp only [column_facts_sqlite, native]
  have typed := text_of_put row "type" ((sqliteFacts row).nativeType .sqlite)
  obtain ⟨stays, read⟩ := settled_of_typed typed
  constructor
  · rw [native, native, stays]
  · intro numbers carries
    rw [native] at carries
    rw [numbers_of_describe]
    exact read numbers carries

/-- A scale of zero is not shown, and from then on there is none. -/
example :
    let native (declared : String) :=
      (sqliteFacts [("type", .string declared)]).nativeType .sqlite
    native "Decimal (10, 0)" = "numeric(10)" ∧ native "numeric(10)" = "numeric(10)" := by decide

end Facts

end SqlAccess.Catalog
