import Mathlib.Data.List.Nodup
import SqlAccess.Proofs.Catalog.QuotedName

/-!
# Spellings of a name

A table without a schema is spelt as its bare name or in one of three styles of quotes. Main
statements: which spellings are read as the name, which is all of them but those in brackets that a
dot cuts; and in a list of tables whose names differ in lower case, names that agree in lower case
stand for the same entry, whether one of them is spelt as the entry is or not.
-/

namespace SqlAccess.TableName

open Text.Quoted (enclose)

/-- The spellings of a name that is given without a schema. A bare spelling has no dot outside
quotes. -/
inductive Spells : String → String → Prop
  | bare (spelling : String) (whole : (through none (Text.trim spelling.toList)).isSome = true) :
    Spells spelling (String.ofList (unquote spelling.toList))
  | quoted (style : Char × Char) (known : style ∈ styles) (spelling name : String)
      (written : Text.trim spelling.toList = enclose style.1 style.2 name.toList) :
    Spells spelling name

/-- Blanks at the ends of a part do not count. -/
theorem unquote_trim (part : List Char) : unquote (Text.trim part) = unquote part := by
  simp only [unquote, (Text.trimmed_trim part).trim_eq]

/-- A part with a visible name in it is visible. -/
theorem visible_of_unquote {spelling name : String} (named : Text.isBlankText name = false)
    (reads : unquote spelling.toList = name.toList) : Text.isBlankText spelling = false := by
  rw [Text.isBlankText, List.all_eq_false] at named ⊢
  obtain ⟨c, inside, ink⟩ := named
  exact ⟨c, (unquote_sublist spelling.toList).subset (reads ▸ inside), ink⟩

/-- A part that is one piece is read as the name in it. -/
theorem parse_of_through {spelling name : String} (named : Text.isBlankText name = false)
    (reads : unquote spelling.toList = name.toList)
    (whole : (through none (Text.trim spelling.toList)).isSome = true) :
    parse spelling = .ok ⟨none, name⟩ := by
  obtain ⟨after, passes⟩ := Option.isSome_iff_exists.mp whole
  have cut :
      (parts none (Text.trim spelling.toList)).reverse = Text.trim spelling.toList :: [] := by
    rw [parts_of_through passes, List.reverse_singleton]
  rw [parse_eq_ok_iff (visible_of_unquote named reads) cut, unquote_trim, reads,
    String.ofList_toList]
  exact ⟨named, rfl, rfl⟩

/-- A part that is read with all its dots in the name is one piece. -/
theorem through_of_parse {spelling name : String} (named : Text.isBlankText name = false)
    (reads : unquote spelling.toList = name.toList)
    (dots : (Text.trim spelling.toList).count '.' ≤ name.toList.count '.')
    (read : parse spelling = .ok ⟨none, name⟩) :
    (through none (Text.trim spelling.toList)).isSome = true := by
  obtain ⟨last, before, cut⟩ := List.exists_cons_of_ne_nil (List.reverse_ne_nil_iff.mpr
    (parts_ne_nil none (Text.trim spelling.toList)))
  obtain ⟨_, isName, _⟩ :=
    (parse_eq_ok_iff (visible_of_unquote named reads) cut ⟨none, name⟩).mp read
  dsimp only at isName
  have inLast : name.toList.count '.' ≤ last.count '.' := by
    rw [isName, String.toList_ofList]
    exact (unquote_sublist last).count_le '.'
  exact passes_of_count_le cut (Nat.le_trans dots inLast)

/-- Quotes hold the dots of the name. -/
theorem count_enclose {style : Char × Char} (known : style ∈ styles) (part : List Char) :
    (enclose style.1 style.2 part).count '.' = part.count '.' := by
  simp only [styles, List.mem_cons, List.not_mem_nil, or_false] at known
  rcases known with rfl | rfl | rfl <;> simp [enclose, Text.Quoted.count_double]

/-- Quotes leave no dot outside, but brackets may. -/
theorem through_enclose_iff {style : Char × Char} (known : style ∈ styles) (name : String) :
    (through none (enclose style.1 style.2 name.toList)).isSome = true ↔
      (style = ('[', ']') → (afterBrackets name).isSome = true) := by
  simp only [styles, List.mem_cons, List.not_mem_nil, or_false] at known
  rcases known with rfl | rfl | rfl
  · simp [through_enclose (by decide : closingOf? '"' = some '"') (by decide)]
  · have asWritten : through none (enclose '[' ']' name.toList) = afterBrackets name :=
      through_written_sql_server name
    simp [asWritten]
  · simp [through_enclose (by decide : closingOf? '\x60' = some '\x60') (by decide)]

/-- A spelling is read as its name, unless a bracket in the name ends the quotes and a dot behind it
seems to stand outside. -/
theorem parse_spelling {spelling name : String} (spells : Spells spelling name)
    (named : Text.isBlankText name = false) :
    parse spelling = .ok ⟨none, name⟩ ↔
      (Text.trim spelling.toList = enclose '[' ']' name.toList →
        (afterBrackets name).isSome = true) := by
  have inBrackets (whole : (through none (Text.trim spelling.toList)).isSome = true)
      (written : Text.trim spelling.toList = enclose '[' ']' name.toList) :
      (afterBrackets name).isSome = true := by
    have known : ('[', ']') ∈ styles := by decide
    rw [written] at whole
    exact (through_enclose_iff known name).mp whole rfl
  cases spells with
  | bare spelling whole =>
    exact iff_of_true (parse_of_through named String.toList_ofList.symm whole) (inBrackets whole)
  | quoted style known spelling name written =>
    have reads : unquote spelling.toList = name.toList := by
      rw [← unquote_trim, written, unquote_enclose known]
    constructor
    · intro read
      have dots := Nat.le_of_eq (count_enclose known name.toList)
      rw [← written] at dots
      exact inBrackets (through_of_parse named reads dots read)
    · intro uncut
      refine parse_of_through named reads ?_
      rw [written, through_enclose_iff known]
      rintro rfl
      exact uncut written

section Resolution

variable {same : String → String → Bool} {tables entries : List TableRef}
  {requested entry : TableRef}
  {defaultSchema : Option String} {name : String}

/-- The preferred entry is one of the entries. -/
theorem mem_of_preferred (found : preferred defaultSchema requested entries = some entry) :
    entry ∈ entries := by
  rw [preferred, Option.or_eq_some_iff] at found
  rcases found with first | ⟨_, first⟩
  · exact List.mem_of_find?_eq_some first
  · exact List.mem_of_mem_head? first

/-- Of some entries one is preferred. -/
theorem exists_preferred (nonempty : entries ≠ []) :
    ∃ entry, preferred defaultSchema requested entries = some entry := by
  obtain ⟨first, rest, rfl⟩ := List.exists_cons_of_ne_nil nonempty
  rw [← Option.isSome_iff_exists, preferred, Option.isSome_or]
  simp

/-- The candidates for a name without a schema are the entries of that name. -/
theorem mem_candidates :
    entry ∈ candidates same tables ⟨none, name⟩ ↔
      entry ∈ tables ∧ same entry.name name = true := by
  simp [candidates, schemasAgree]

/-- What a name without a schema stands for has its name in lower case. -/
theorem lowered_of_resolve (found : resolve defaultSchema tables ⟨none, name⟩ = some entry) :
    entry ∈ tables ∧ Text.lowered entry.name = Text.lowered name := by
  have member := mem_of_preferred found
  split at member
  · simpa only [mem_candidates, beq_iff_eq] using member
  · rw [mem_candidates, beq_iff_eq] at member
    exact ⟨member.1, congrArg Text.lowered member.2⟩

/-- A name without a schema stands for something where an entry has it in lower case. -/
theorem exists_resolve (defaultSchema : Option String) (member : entry ∈ tables)
    (alike : Text.lowered entry.name = Text.lowered name) :
    ∃ other, resolve defaultSchema tables ⟨none, name⟩ = some other := by
  refine exists_preferred fun nothing => ?_
  split at nothing
  · refine List.ne_nil_of_mem (mem_candidates.mpr ⟨member, ?_⟩) nothing
    exact beq_iff_eq.mpr alike
  · rename_i someExact
    exact someExact (by rw [nothing]; rfl)

/-- In a list whose names differ in lower case a name without a schema stands for the entry that
has it in lower case, however it is spelt. -/
theorem resolve_eq_some_iff
    (distinct : (tables.map fun entry => Text.lowered entry.name).Nodup) :
    resolve defaultSchema tables ⟨none, name⟩ = some entry ↔
      entry ∈ tables ∧ Text.lowered entry.name = Text.lowered name := by
  constructor
  · exact lowered_of_resolve
  · rintro ⟨member, alike⟩
    obtain ⟨other, found⟩ := exists_resolve defaultSchema member alike
    obtain ⟨inTables, otherAlike⟩ := lowered_of_resolve found
    rw [found, List.inj_on_of_nodup_map distinct inTables member (otherAlike.trans alike.symm)]

/-- There, names that agree in lower case stand for the same entry or for none. -/
theorem resolve_congr (distinct : (tables.map fun entry => Text.lowered entry.name).Nodup)
    {first second : String} (alike : Text.lowered first = Text.lowered second) :
    resolve defaultSchema tables ⟨none, first⟩ =
      resolve defaultSchema tables ⟨none, second⟩ := by
  apply Option.ext
  intro entry
  rw [resolve_eq_some_iff distinct, resolve_eq_some_iff distinct, alike]

end Resolution

end SqlAccess.TableName
