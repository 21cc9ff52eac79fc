import SqlAccess.ConnectionString.Settings
import SqlAccess.Proofs.ConnectionString.NameCharacters
import SqlAccess.Proofs.Text.Cut

/-!
# Another database among settings

A string of settings is its segments: trimmed, and without the blank ones. Main statements: the
string with another database has those segments in their order, but for the first that sets the
database, which sets the new one, and for later ones, which are dropped; where none sets it, one is
added at the end. The new name is what is read back, and writing a second name leaves nothing of
the first.
-/

namespace SqlAccess.Settings

open Text

variable {segment key value name s : List Char} {segments pieces : List (List Char)}

/-- The segments of a string that count: trimmed, and without the blank ones. -/
def countedSegments (s : List Char) : List (List Char) :=
  ((splitOn ';' s).filter fun segment => !segment.all isBlank).map trim

/-- The segments after the database is set to a name. -/
inductive Rewritten (name : List Char) : List (List Char) → List (List Char) → Prop
  /-- No segment sets the database, so one is added. -/
  | added {segments : List (List Char)}
      (unset : ∀ segment ∈ segments, setsDatabase segment = false) :
      Rewritten name segments (segments ++ ["Database=".toList ++ name])
  /-- The first segment that sets the database gets the name for its value; the others go. -/
  | replaced {front back : List (List Char)} {key value : List Char}
      (unset : ∀ segment ∈ front, setsDatabase segment = false)
      (free : '=' ∉ key) (names : isDatabaseKey key = true) :
      Rewritten name (front ++ (key ++ '=' :: value) :: back)
        (front ++ (trim key ++ '=' :: name) :: back.filter fun later => !setsDatabase later)

section Trimming

/-- Blanks around a segment are blanks around its key and its value. -/
theorem pair?_trim (segment : List Char) :
    pair? (trim segment) =
      (pair? segment).map fun pair => (trimStart pair.1, trimEnd pair.2) := by
  cases cut : pair? segment with
  | none =>
    have free : '=' ∉ segment := cut_at_eq_none_iff.mp cut
    exact cut_at_eq_none_iff.mpr fun member => free ((trim_sublist segment).subset member)
  | some pair =>
    obtain ⟨whole, free⟩ := cut_at_eq_some_iff.mp cut
    rw [whole, trim_append_cons (by decide)]
    exact cut_at_append (fun member => free ((List.dropWhile_sublist isBlank).subset member)) _

/-- Blanks around a key do not matter. -/
theorem is_database_key_of_trim_eq {first second : List Char} (same : trim first = trim second) :
    isDatabaseKey first = isDatabaseKey second := by
  simp only [isDatabaseKey, isKeyAmong, same]

/-- Blanks around a segment do not matter to what it sets. -/
theorem sets_database_trim (segment : List Char) :
    setsDatabase (trim segment) = setsDatabase segment := by
  simp only [setsDatabase, pair?_trim]
  cases pair? segment with
  | none => rfl
  | some pair => exact is_database_key_of_trim_eq (trim_trim_start pair.1)

/-- A segment that sets the database is cut at its first equals sign. -/
theorem sets_database_iff : setsDatabase segment = true ↔
    ∃ key value, pair? segment = some (key, value) ∧ isDatabaseKey key = true := by
  unfold setsDatabase
  cases pair? segment with
  | none => simp
  | some pair => simp [Prod.ext_iff]

/-- Filtering and trimming go together. -/
theorem filter_map_trim (segments : List (List Char)) :
    (segments.map trim).filter (fun later => !setsDatabase later) =
      (segments.filter fun later => !setsDatabase later).map trim := by
  rw [List.filter_map]
  refine congrArg (List.map trim) (List.filter_congr fun segment _ => ?_)
  simp only [Function.comp, sets_database_trim]

end Trimming

section Replacing

/-- The first segment that sets the database. -/
theorem replace_database_of_sets (cut : pair? segment = some (key, value))
    (names : isDatabaseKey key = true) (name : List Char) (rest : List (List Char)) :
    replaceDatabase name (segment :: rest) =
      (trim key ++ '=' :: name) ::
        ((rest.filter fun later => !setsDatabase later).map trim) := by
  simp only [replaceDatabase, cut, names, if_true]

/-- A segment that sets something else. -/
theorem replace_database_of_other (other : setsDatabase segment = false) (name : List Char)
    (rest : List (List Char)) :
    replaceDatabase name (segment :: rest) = trim segment :: replaceDatabase name rest := by
  unfold setsDatabase at other
  cases cut : pair? segment with
  | none => simp only [replaceDatabase, cut]
  | some pair =>
    rw [cut] at other
    simp only [replaceDatabase, cut, show isDatabaseKey pair.1 = false from other,
      Bool.false_eq_true, if_false]

/-- A segment that sets something else may stand before what is rewritten. -/
theorem Rewritten.cons (rewritten : Rewritten name segments pieces)
    (other : setsDatabase segment = false) :
    Rewritten name (segment :: segments) (segment :: pieces) := by
  cases rewritten with
  | added unset => exact .added (List.forall_mem_cons.mpr ⟨other, unset⟩)
  | replaced unset free names =>
    exact .replaced (List.forall_mem_cons.mpr ⟨other, unset⟩) free names

/-- What is written are the trimmed segments with the database set. -/
theorem rewritten_replace_database (name : List Char) (segments : List (List Char)) :
    Rewritten name (segments.map trim) (replaceDatabase name segments) := by
  induction segments with
  | nil => exact .added (fun _ impossible => absurd impossible List.not_mem_nil)
  | cons segment rest inductionHypothesis =>
    cases sets : setsDatabase segment with
    | false =>
      rw [replace_database_of_other sets, List.map_cons]
      exact inductionHypothesis.cons (by rwa [sets_database_trim])
    | true =>
      obtain ⟨key, value, cut, names⟩ := sets_database_iff.mp sets
      obtain ⟨whole, free⟩ := cut_at_eq_some_iff.mp cut
      have freeStart : '=' ∉ trimStart key := fun member =>
        free ((List.dropWhile_sublist isBlank).subset member)
      rw [replace_database_of_sets cut names, List.map_cons, whole, trim_append_cons (by decide),
        ← filter_map_trim, ← trim_trim_start key]
      exact @Rewritten.replaced name [] _ _ _
        (fun _ impossible => absurd impossible List.not_mem_nil) freeStart
        (by rwa [is_database_key_of_trim_eq (trim_trim_start key)])

/-- Where the database is set in what is rewritten: for the first time, and to the name. -/
theorem Rewritten.exists_setting (rewritten : Rewritten name segments pieces) :
    ∃ front key back, pieces = front ++ (key ++ '=' :: name) :: back ∧
      (∀ segment ∈ front, setsDatabase segment = false) ∧ '=' ∉ key ∧
      isDatabaseKey key = true := by
  cases rewritten with
  | added unset => exact ⟨segments, "Database".toList, [], rfl, unset, by decide, by decide⟩
  | @replaced front back key value unset free names =>
    exact ⟨front, trim key, _, rfl, unset, fun member => free ((trim_sublist key).subset member),
      by rwa [is_database_key_of_trim_eq (trimmed_trim key).trim_eq]⟩

/-- Something is always written. -/
theorem replace_database_ne_nil (name : List Char) (segments : List (List Char)) :
    replaceDatabase name segments ≠ [] := by
  obtain ⟨front, key, back, pieces, _⟩ :=
    (rewritten_replace_database name segments).exists_setting
  rw [pieces]
  exact List.append_ne_nil_of_right_ne_nil front (List.cons_ne_nil _ back)

/-- A segment of what is rewritten is one of the segments, or a setting of the name. -/
theorem Rewritten.mem (rewritten : Rewritten name segments pieces) {piece : List Char}
    (member : piece ∈ pieces) :
    piece ∈ segments ∨ ∃ key, piece = trim key ++ '=' :: name ∧
      (key = "Database".toList ∨ ∃ segment ∈ segments, key.Sublist segment) := by
  cases rewritten with
  | added unset =>
    rcases List.mem_append.mp member with kept | new
    · exact Or.inl kept
    · exact Or.inr ⟨"Database".toList, List.mem_singleton.mp new, Or.inl rfl⟩
  | @replaced front back key value unset free names =>
    rcases List.mem_append.mp member with before | behind
    · exact Or.inl (List.mem_append_left _ before)
    · rcases List.mem_cons.mp behind with new | later
      · refine Or.inr ⟨key, new, Or.inr
          ⟨key ++ '=' :: value, ?_, List.sublist_append_left _ _⟩⟩
        exact List.mem_append_right _ List.mem_cons_self
      · exact Or.inl (List.mem_append_right _
          (List.mem_cons_of_mem _ (List.mem_filter.mp later).1))

/-- A second name leaves nothing of the first. -/
theorem replace_database_replace_database (name other : List Char) (segments : List (List Char)) :
    replaceDatabase other (replaceDatabase name segments) = replaceDatabase other segments := by
  induction segments with
  | nil =>
    have cut : pair? ("Database".toList ++ '=' :: name) = some ("Database".toList, name) :=
      cut_at_append (by decide) name
    exact replace_database_of_sets cut (by decide) other []
  | cons segment rest inductionHypothesis =>
    cases sets : setsDatabase segment with
    | false =>
      rw [replace_database_of_other sets, replace_database_of_other sets,
        replace_database_of_other (by rwa [sets_database_trim]), inductionHypothesis,
        (trimmed_trim segment).trim_eq]
    | true =>
      obtain ⟨key, value, cut, names⟩ := sets_database_iff.mp sets
      obtain ⟨whole, free⟩ := cut_at_eq_some_iff.mp cut
      have again : pair? (trim key ++ '=' :: name) = some (trim key, name) :=
        cut_at_append (fun member => free ((trim_sublist key).subset member)) name
      have stays := is_database_key_of_trim_eq (trimmed_trim key).trim_eq
      rw [replace_database_of_sets cut names, replace_database_of_sets cut names,
        replace_database_of_sets again (stays.trans names), filter_map_trim, List.filter_filter,
        (trimmed_trim key).trim_eq]
      simp only [Bool.and_self, List.map_map]
      congr 1
      exact List.map_congr_left fun later _ => (trimmed_trim later).trim_eq

end Replacing

section Strings

variable (s : List Char) (valid : DatabaseName.isValid name = true)

include valid

/-- What is joined has no separator inside, no blanks at its ends, and something in it. -/
theorem mem_rewritten {piece : List Char} (rewritten : Rewritten name (countedSegments s) pieces)
    (member : piece ∈ pieces) : ';' ∉ piece ∧ Trimmed piece ∧ piece ≠ [] := by
  have counts (segment : List Char) (inside : segment ∈ countedSegments s) :
      ';' ∉ segment ∧ Trimmed segment ∧ segment ≠ [] := by
    obtain ⟨written, kept, rfl⟩ := List.mem_map.mp inside
    obtain ⟨isPiece, visible⟩ := List.mem_filter.mp kept
    refine ⟨fun semicolon => ?_, trimmed_trim written, fun empty => ?_⟩
    · exact not_mem_of_mem_split_on ';' s written isPiece ((trim_sublist written).subset semicolon)
    · rw [Bool.not_eq_true', Bool.eq_false_iff, ne_eq, ← trim_eq_nil_iff] at visible
      exact visible empty
  rcases rewritten.mem member with kept | ⟨key, rfl, written⟩
  · exact counts piece kept
  · have equals : Trimmed ('=' :: name) := trimmed_of_forall
      (List.forall_mem_cons.mpr ⟨by decide, DatabaseName.is_blank_of_mem valid⟩)
    refine ⟨?_, (trimmed_trim key).append equals, by simp⟩
    have keyFree : ';' ∉ key := by
      rcases written with rfl | ⟨segment, inside, part⟩
      · decide
      · exact fun semicolon => (counts segment inside).1 (part.subset semicolon)
    simp only [List.mem_append, List.mem_cons, not_or]
    exact ⟨fun semicolon => keyFree ((trim_sublist key).subset semicolon), by decide,
      DatabaseName.not_mem_of_is_valid valid (by decide)⟩

/-- The string with another database comes apart into what was joined. -/
theorem split_on_with_database :
    splitOn ';' (withDatabase s name) =
      replaceDatabase name ((splitOn ';' s).filter fun segment => !segment.all isBlank) := by
  have rewritten := rewritten_replace_database name
    ((splitOn ';' s).filter fun segment => !segment.all isBlank)
  exact split_on_join_with (replace_database_ne_nil name _) fun piece member =>
    (mem_rewritten s valid rewritten member).1

/-- Its segments are those that count, with the database set. -/
theorem rewritten_with_database :
    Rewritten name (countedSegments s) (splitOn ';' (withDatabase s name)) := by
  rw [split_on_with_database s valid]
  exact rewritten_replace_database name _

/-- It has no blanks at its ends. -/
theorem trimmed_with_database : Trimmed (withDatabase s name) := by
  have rewritten := rewritten_replace_database name
    ((splitOn ';' s).filter fun segment => !segment.all isBlank)
  exact (trimmed_join_with [';'] fun piece member => (mem_rewritten s valid rewritten member).2).1

/-- None of its segments is blank. -/
theorem filter_split_on_with_database :
    ((splitOn ';' (withDatabase s name)).filter fun segment => !segment.all isBlank) =
      splitOn ';' (withDatabase s name) := by
  refine List.filter_eq_self.mpr fun piece member => ?_
  obtain ⟨_, trimmed, some⟩ := mem_rewritten s valid (rewritten_with_database s valid) member
  rw [Bool.not_eq_true', Bool.eq_false_iff, ne_eq, ← trim_eq_nil_iff, trimmed.trim_eq]
  exact some

/-- Setting the database once more leaves nothing of the first name. -/
theorem with_database_with_database (other : List Char) :
    withDatabase (withDatabase s name) other = withDatabase s other := by
  rw [withDatabase, filter_split_on_with_database s valid, split_on_with_database s valid,
    replace_database_replace_database]
  rfl

/-- The name that was set is read back. -/
theorem database?_with_database : database? (withDatabase s name) = some name := by
  obtain ⟨front, key, back, pieces, unset, free, names⟩ :=
    (rewritten_with_database s valid).exists_setting
  have passed : (front.filterMap fun segment =>
      (pair? segment).filter fun pair => isDatabaseKey pair.1) = [] := by
    rw [List.filterMap_eq_nil_iff]
    intro segment member
    have other := unset segment member
    unfold setsDatabase at other
    cases cut : pair? segment with
    | none => rfl
    | some pair =>
      rw [cut] at other
      rw [Option.filter_some, if_neg (by simpa using other)]
  have found : (pair? (key ++ '=' :: name)).filter (fun pair => isDatabaseKey pair.1) =
      some (key, name) := by
    rw [pair?, cut_at_append free, Option.filter_some, if_pos names]
  simp only [database?, pieces, List.filterMap_append, passed, List.filterMap_cons, found,
    List.nil_append, (DatabaseName.trimmed_of_is_valid valid).trim_eq, Option.filter_some]
  simp [DatabaseName.ne_nil_of_is_valid valid]

end Strings

end SqlAccess.Settings
