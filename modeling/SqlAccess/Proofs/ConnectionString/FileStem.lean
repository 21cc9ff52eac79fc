import SqlAccess.ConnectionString.FilePath
import SqlAccess.Proofs.ConnectionString.NameCharacters
import SqlAccess.Proofs.Text.AsciiCase
import SqlAccess.Proofs.Text.Cut

/-!
# Another stem for a file

A SQLite connection string is read into its parts and put together with another stem. Main
statement: where the new stem is a database name, the string that is put together is read into the
same parts again, with that stem. Nothing in the name can be taken for a scheme, a directory, an
extension or a query, and nothing around it joins with the name to make one.
-/

namespace SqlAccess.FilePath

open Text

variable {file : FilePath} {name s : List Char}

/-- The part of the file's name that the database is named by. -/
def stemPart (file : FilePath) : List Char := (cutExtension file.fileName).1

/-- The part of the file's name from its last dot on. -/
def extension (file : FilePath) : List Char := (cutExtension file.fileName).2

/-- A string in other words: everything is as before, except for the stem. -/
structure Restemmed (before after : FilePath) (name : List Char) : Prop where
  scheme : after.scheme = before.scheme
  directory : after.directory = before.directory
  stem : after.stemPart = name
  extension : after.extension = before.extension
  query : after.query = before.query

section Extension

/-- An extension is nothing, or the text from a dot on with no other dot. -/
theorem cut_extension_cases (name : List Char) :
    (cutExtension name).2 = [] ∨ ∃ letters, (cutExtension name).2 = '.' :: letters ∧
      '.' ∉ letters := by
  unfold cutExtension
  split
  · rename_i stem letters cut
    split
    · exact Or.inl rfl
    · exact Or.inr ⟨letters, rfl, (cut_at_last_eq_some_iff.mp cut).2⟩
  · exact Or.inl rfl

/-- A stem and an extension make a name. -/
theorem cut_extension_append (name : List Char) :
    (cutExtension name).1 ++ (cutExtension name).2 = name := by
  unfold cutExtension
  split
  · rename_i stem letters cut
    split
    · exact List.append_nil name
    · exact (cut_at_last_eq_some_iff.mp cut).1.symm
  · exact List.append_nil name

/-- A stem without a dot is cut off an extension. -/
theorem cut_extension_of_stem {stem extension : List Char} (nonempty : stem ≠ [])
    (free : '.' ∉ stem)
    (dotted : extension = [] ∨ ∃ letters, extension = '.' :: letters ∧ '.' ∉ letters) :
    cutExtension (stem ++ extension) = (stem, extension) := by
  rcases dotted with rfl | ⟨letters, rfl, single⟩
  · rw [List.append_nil, cutExtension, cut_at_last_eq_none_iff.mpr free]
  · rw [cutExtension, cut_at_last_append stem single]
    simp [nonempty]

end Extension

section Directory

/-- A directory is nothing, or ends with a separator. -/
theorem is_separator_of_directory (file : FilePath) :
    ∀ c ∈ file.directory.getLast?, isSeparator c = true := by
  intro c last
  rw [directory, List.getLast?_reverse] at last
  have stopped := List.head?_dropWhile_not (fun c => !isSeparator c) file.path.reverse
  rw [show (file.path.reverse.dropWhile fun c => !isSeparator c).head? = some c from last]
    at stopped
  simpa using stopped

/-- A name holds no separator. -/
theorem is_separator_of_file_name (file : FilePath) :
    ∀ c ∈ file.fileName, isSeparator c = false := by
  intro c member
  have passed := List.all_eq_true.mp (List.all_takeWhile) c (List.mem_reverse.mp member)
  simpa using passed

/-- A path is cut behind its last separator. -/
theorem file_name_of_path {scheme directory name query : List Char}
    (ends : ∀ c ∈ directory.getLast?, isSeparator c = true)
    (free : ∀ c ∈ name, isSeparator c = false) :
    fileName ⟨scheme, directory ++ name, query⟩ = name ∧
      FilePath.directory ⟨scheme, directory ++ name, query⟩ = directory := by
  have passes : ∀ c ∈ name.reverse, (!isSeparator c) = true := by
    intro c member
    simp [free c (List.mem_reverse.mp member)]
  have stops : (directory.reverse.takeWhile fun c => !isSeparator c) = [] ∧
      (directory.reverse.dropWhile fun c => !isSeparator c) = directory.reverse := by
    cases backwards : directory.reverse with
    | nil => exact ⟨rfl, rfl⟩
    | cons c rest =>
      have separates : isSeparator c = true := by
        refine ends c ?_
        rw [← List.head?_reverse, backwards]
        rfl
      simp [separates]
  simp only [fileName, FilePath.directory, List.reverse_append]
  rw [List.takeWhile_append_of_pos passes, List.dropWhile_append_of_pos passes, stops.1, stops.2]
  simp

end Directory

section Scheme

/-- The word that both spellings of the scheme begin with, and what the longer one ends with. -/
theorem mem_schemes {scheme : List Char} (listed : scheme ∈ schemes) :
    lowerAscii scheme = scheme ∧ ':' ∈ scheme ∧
      (∀ c ∈ scheme.drop 6, c = ':' ∨ c = '/') ∧
      (∀ c ∈ scheme.take 6, isSeparator c = false) ∧ '.' ∉ scheme ∧ '?' ∉ scheme := by
  simp only [schemes, List.mem_cons, List.not_mem_nil, or_false] at listed
  rcases listed with rfl | rfl <;>
    exact ⟨by decide, by decide, forall_mem_of_all (by decide), forall_mem_of_all (by decide),
      by decide, by decide⟩

/-- How long the scheme of a text is: the longer spelling is looked for first. -/
theorem scheme_length_eq (s : List Char) :
    schemeLength s =
      if "sqlite://".toList <+: lowerAscii s then 9
      else if "sqlite:".toList <+: lowerAscii s then 7 else 0 := by
  have spelt (scheme : List Char) (lower : lowerAscii scheme = scheme) :
      sameIgnoringAsciiCase (s.take scheme.length) scheme = true ↔ scheme <+: lowerAscii s := by
    rw [same_ignoring_ascii_case_take_iff, lower]
  have long := spelt "sqlite://".toList (by decide)
  have short := spelt "sqlite:".toList (by decide)
  let fits (scheme : List Char) : Bool :=
    sameIgnoringAsciiCase (s.take scheme.length) scheme
  rw [schemeLength, schemes, show (fun scheme => sameIgnoringAsciiCase (s.take scheme.length)
    scheme) = fits from rfl]
  by_cases isLong : "sqlite://".toList <+: lowerAscii s
  · rw [if_pos isLong, List.find?_cons_of_pos (p := fits) (long.mpr isLong)]
    rfl
  · rw [if_neg isLong, List.find?_cons_of_neg (p := fits) (mt long.mp isLong)]
    by_cases isShort : "sqlite:".toList <+: lowerAscii s
    · rw [if_pos isShort, List.find?_cons_of_pos (p := fits) (short.mpr isShort)]
      rfl
    · rw [if_neg isShort, List.find?_cons_of_neg (p := fits) (mt short.mp isShort)]
      rfl

/-- What a scheme has behind its sixth character is no sign of a name, so a scheme that reaches into
a name has little in front of it. -/
theorem length_lt_of_scheme {front rest scheme : List Char} {first : Char}
    (listed : scheme ∈ schemes) (sign : DatabaseName.continuesName first = true)
    (whole : scheme = lowerAscii front ++ first.toLower :: rest) : front.length < 6 := by
  obtain ⟨_, _, marks, _, _, _⟩ := mem_schemes listed
  have length : (lowerAscii front).length = front.length := List.length_map _
  refine Nat.lt_of_not_le fun late => ?_
  have behind : first.toLower ∈ scheme.drop 6 := by
    rw [whole, List.drop_append_of_le_length (by rwa [length])]
    exact List.mem_append_right _ List.mem_cons_self
  rcases marks _ behind with mark | mark <;>
    rw [eq_of_to_lower_eq mark (by decide)] at sign <;> cases sign

/-- There is no separator in the word that a scheme begins with. -/
theorem is_separator_of_scheme {front more scheme : List Char} (listed : scheme ∈ schemes)
    (whole : scheme = lowerAscii front ++ more) (early : front.length < 6) :
    ∀ c ∈ front, isSeparator c = false := by
  obtain ⟨_, _, _, word, _, _⟩ := mem_schemes listed
  have length : (lowerAscii front).length = front.length := List.length_map _
  intro c member
  have inWord : c.toLower ∈ scheme.take 6 := by
    rw [whole, List.take_append, List.take_of_length_le (by omega)]
    exact List.mem_append_left _ (List.mem_map_of_mem member)
  rw [Bool.eq_false_iff]
  intro separates
  have stays : c.toLower = c := by
    simp only [isSeparator, Bool.or_eq_true, decide_eq_true_eq] at separates
    rcases separates with rfl | rfl <;> decide
  rw [stays] at inWord
  rw [word c inWord] at separates
  cases separates

/-- No scheme begins where a name does: its colon is not in the name, and what follows the name is
not in the scheme. -/
theorem not_scheme_prefix_name {tail scheme : List Char} (listed : scheme ∈ schemes)
    (valid : DatabaseName.isValid name = true)
    (follows : ∀ c ∈ tail.head?, c = '.' ∨ c = '?') :
    ¬ scheme <+: lowerAscii (name ++ tail) := by
  obtain ⟨_, colon, _, _, noDot, noMark⟩ := mem_schemes listed
  intro begins
  rw [lower_ascii_append] at begins
  have reaches : (lowerAscii name).length < scheme.length := by
    refine Nat.lt_of_not_le fun fits => ?_
    have within := List.prefix_of_prefix_length_le begins (List.prefix_append _ _) fits
    exact DatabaseName.not_mem_of_is_valid valid (by decide)
      (mem_of_mem_lower_ascii (within.subset colon) (by decide))
  obtain ⟨c, more, reached, behind⟩ := exists_of_prefix_append begins reaches
  cases tail with
  | nil => exact absurd (List.prefix_nil.mp behind) (List.cons_ne_nil c more)
  | cons d ending =>
    rw [lowerAscii, List.map_cons, List.cons_prefix_cons] at behind
    have member : c ∈ scheme := by
      rw [reached]
      exact List.mem_append_right _ List.mem_cons_self
    rcases follows d rfl with rfl | rfl <;> rw [behind.1] at member
    · exact noDot member
    · exact noMark member

/-- A scheme that a text begins with ends before a name in it, if the name stands at the start,
behind a separator or far enough from the start. -/
theorem length_le_of_begins {front tail scheme : List Char} (listed : scheme ∈ schemes)
    (valid : DatabaseName.isValid name = true)
    (apart : front = [] ∨ 6 ≤ front.length ∨ ∃ c ∈ front, isSeparator c = true)
    (follows : ∀ c ∈ tail.head?, c = '.' ∨ c = '?')
    (begins : scheme <+: lowerAscii (front ++ (name ++ tail))) :
    scheme.length ≤ front.length := by
  refine Nat.le_of_not_lt fun short => ?_
  have inName := not_scheme_prefix_name listed valid follows
  obtain ⟨first, others, rfl⟩ :=
    List.exists_cons_of_ne_nil (DatabaseName.ne_nil_of_is_valid valid)
  have sign := DatabaseName.continues_name_of_mem valid first List.mem_cons_self
  have split := begins
  rw [lower_ascii_append] at split
  have length : (lowerAscii front).length = front.length := List.length_map _
  obtain ⟨c, rest, whole, inside⟩ := exists_of_prefix_append split (by rwa [length])
  obtain rfl : c = first.toLower := by
    rw [List.cons_append, lowerAscii, List.map_cons] at inside
    exact (List.cons_prefix_cons.mp inside).1
  have early := length_lt_of_scheme listed sign whole
  rcases apart with rfl | late | ⟨d, member, separates⟩
  · exact inName begins
  · exact absurd late (Nat.not_le.mpr early)
  · rw [is_separator_of_scheme listed whole early d member] at separates
    cases separates

/-- A scheme that a text begins with belongs to its scheme. -/
theorem length_le_scheme_length {scheme : List Char} (listed : scheme ∈ schemes)
    (begins : scheme <+: lowerAscii s) : scheme.length ≤ schemeLength s := by
  rw [scheme_length_eq]
  simp only [schemes, List.mem_cons, List.not_mem_nil, or_false] at listed
  rcases listed with rfl | rfl
  · rw [if_pos begins]
    exact Nat.le_refl 9
  · rw [if_pos begins]
    split
    · exact (by decide : 7 ≤ 9)
    · exact Nat.le_refl 7

/-- The scheme of a text is as long as it seems. -/
theorem length_scheme (s : List Char) : (parse s).scheme.length = schemeLength s := by
  have long (scheme : List Char) (begins : scheme <+: lowerAscii s) : scheme.length ≤ s.length :=
    Nat.le_trans begins.length_le (Nat.le_of_eq (List.length_map _))
  rw [parse, List.length_take, Nat.min_eq_left]
  rw [scheme_length_eq]
  split
  · rename_i begins
    exact long _ begins
  · split
    · rename_i begins
      exact long _ begins
    · exact Nat.zero_le _

/-- What stands before the stem of a file. -/
def front (file : FilePath) : List Char := file.scheme ++ file.directory

/-- What stands behind the stem of a file. -/
def back (file : FilePath) : List Char := file.extension ++ file.query

/-- A connection string is its stem with what stands before it and behind it. -/
theorem text_eq (file : FilePath) : file.text = file.front ++ (file.stemPart ++ file.back) := by
  rw [text, ← directory_append_file_name, ← cut_extension_append file.fileName]
  simp only [front, back, stemPart, extension, List.append_assoc]

/-- So is one with another stem. -/
theorem text_with_stem (file : FilePath) (name : List Char) :
    (file.withStem name).text = file.front ++ (name ++ file.back) := by
  simp only [withStem, text, front, back, extension, List.append_assoc]

/-- What stands before the stem is nothing, or has a separator, or is long. -/
theorem front_cases (s : List Char) :
    (parse s).front = [] ∨ 6 ≤ (parse s).front.length ∨
      ∃ c ∈ (parse s).front, isSeparator c = true := by
  cases directories : (parse s).directory.getLast? with
  | some c =>
    refine Or.inr (Or.inr ⟨c, ?_, is_separator_of_directory _ c directories⟩)
    exact List.mem_append_right _ (List.mem_of_getLast? directories)
  | none =>
    have length := length_scheme s
    rw [front, List.getLast?_eq_none_iff.mp directories, List.append_nil]
    rw [scheme_length_eq] at length
    split at length
    · exact Or.inr (Or.inl (by omega))
    · split at length
      · exact Or.inr (Or.inl (by omega))
      · exact Or.inl (List.length_eq_zero_iff.mp length)

/-- What stands behind the stem begins with a dot or a question mark. -/
theorem head_back (s : List Char) : ∀ c ∈ (parse s).back.head?, c = '.' ∨ c = '?' := by
  intro c first
  rcases cut_extension_cases (parse s).fileName with nothing | ⟨letters, dotted, _⟩
  · rw [back, extension, nothing, List.nil_append] at first
    have stopped := List.head?_dropWhile_not (fun c : Char => c ≠ '?') (s.drop (schemeLength s))
    rw [show ((s.drop (schemeLength s)).dropWhile fun c : Char => c ≠ '?').head? = some c
      from first] at stopped
    exact Or.inr (by simpa using stopped)
  · rw [back, extension, dotted] at first
    exact Or.inl (Option.some.inj first).symm

/-- Another stem leaves the scheme as long as it was. -/
theorem scheme_length_with_stem (s : List Char) (valid : DatabaseName.isValid name = true) :
    schemeLength ((parse s).withStem name).text = schemeLength s := by
  have shared {scheme : List Char} (fits : scheme.length ≤ (parse s).front.length)
      (first second : List Char) (begins : scheme <+: lowerAscii ((parse s).front ++ first)) :
      scheme <+: lowerAscii ((parse s).front ++ second) := by
    rw [lower_ascii_append] at begins ⊢
    have within := List.prefix_of_prefix_length_le begins (List.prefix_append _ _)
      (Nat.le_trans fits (Nat.le_of_eq (List.length_map _).symm))
    exact within.trans (List.prefix_append _ _)
  have same {scheme : List Char} (listed : scheme ∈ schemes) :
      scheme <+: lowerAscii ((parse s).withStem name).text ↔ scheme <+: lowerAscii s := by
    rw [text_with_stem]
    constructor
    · intro begins
      have fits := length_le_of_begins listed valid (front_cases s) (head_back s) begins
      have before := shared fits _ ((parse s).stemPart ++ (parse s).back) begins
      rwa [← text_eq, text_parse] at before
    · intro begins
      have fits : scheme.length ≤ (parse s).front.length := by
        rw [front, List.length_append, length_scheme]
        exact Nat.le_add_right_of_le (length_le_scheme_length listed begins)
      rw [← text_parse s, text_eq] at begins
      exact shared fits _ _ begins
  simp only [scheme_length_eq, same (show "sqlite://".toList ∈ schemes from List.mem_cons_self),
    same (show "sqlite:".toList ∈ schemes from List.mem_cons_of_mem _ List.mem_cons_self)]

end Scheme

/-- Parts are read from what they are put together to, where the scheme ends at its end and the
query begins at its question mark. -/
theorem parse_text (file : FilePath) (ends : schemeLength file.text = file.scheme.length)
    (free : '?' ∉ file.path) (starts : ∀ c ∈ file.query.head?, c = '?') :
    parse file.text = file := by
  have passes : ∀ c ∈ file.path, decide (c ≠ '?') = true := by
    intro c member
    exact decide_eq_true fun same => free (same ▸ member)
  have stops : (file.query.takeWhile fun c => c ≠ '?') = [] ∧
      (file.query.dropWhile fun c => c ≠ '?') = file.query := by
    cases known : file.query with
    | nil => exact ⟨rfl, rfl⟩
    | cons c rest =>
      have mark : c = '?' := starts c (by rw [known]; rfl)
      simp [mark]
  rw [parse, ends, text, List.append_assoc, List.take_left, List.drop_left,
    List.takeWhile_append_of_pos passes, List.dropWhile_append_of_pos passes, stops.1, stops.2,
    List.append_nil]

section Restemming

variable (s : List Char) (valid : DatabaseName.isValid name = true)

include valid

/-- A name and an extension are a file's name. -/
theorem file_name_with_stem :
    ((parse s).withStem name).fileName = name ++ (parse s).extension ∧
      ((parse s).withStem name).directory = (parse s).directory := by
  have separate : ∀ c ∈ name ++ (parse s).extension, isSeparator c = false := by
    intro c member
    rcases List.mem_append.mp member with inName | inExtension
    · rw [Bool.eq_false_iff]
      intro separates
      have admitted := DatabaseName.continues_name_of_mem valid c inName
      simp only [isSeparator, Bool.or_eq_true, decide_eq_true_eq] at separates
      rcases separates with rfl | rfl <;> cases admitted
    · refine is_separator_of_file_name (parse s) c ?_
      rw [← cut_extension_append (parse s).fileName]
      exact List.mem_append_right _ inExtension
  rw [withStem, List.append_assoc]
  exact file_name_of_path (is_separator_of_directory _) separate

/-- Everything but the stem is as before. -/
theorem restemmed_with_stem : Restemmed (parse s) ((parse s).withStem name) name := by
  obtain ⟨named, inDirectory⟩ := file_name_with_stem s valid
  have cut : cutExtension (name ++ (parse s).extension) = (name, (parse s).extension) :=
    cut_extension_of_stem (DatabaseName.ne_nil_of_is_valid valid)
      (DatabaseName.not_mem_of_is_valid valid (by decide)) (cut_extension_cases _)
  exact ⟨rfl, inDirectory, by rw [stemPart, named, cut], by rw [extension, named, cut], rfl⟩

/-- A connection string that is put together with another stem is read into the same parts. -/
theorem parse_with_stem : parse ((parse s).withStem name).text = (parse s).withStem name := by
  refine parse_text _ ?_ ?_ ?_
  · rw [scheme_length_with_stem s valid]
    exact (length_scheme s).symm
  · intro marked
    have inPath : '?' ∉ (parse s).path := by
      intro member
      have passed := List.all_eq_true.mp List.all_takeWhile '?' member
      simp at passed
    have parts := directory_append_file_name (parse s)
    rw [← cut_extension_append (parse s).fileName] at parts
    rw [← parts] at inPath
    simp only [List.mem_append, not_or] at inPath
    simp only [withStem, List.mem_append] at marked
    rcases marked with (inDirectory | inName) | inExtension
    · exact inPath.1 inDirectory
    · exact DatabaseName.not_mem_of_is_valid valid (by decide) inName
    · exact inPath.2.2 inExtension
  · intro c first
    have stopped := List.head?_dropWhile_not (fun c : Char => c ≠ '?') (s.drop (schemeLength s))
    rw [show ((s.drop (schemeLength s)).dropWhile fun c : Char => c ≠ '?').head? = some c
      from first] at stopped
    simpa using stopped

/-- A file stays a file. -/
theorem is_memory_with_stem (stored : (parse s).isMemory = false) :
    ((parse s).withStem name).isMemory = false := by
  obtain ⟨first, rest, rfl⟩ :=
    List.exists_cons_of_ne_nil (DatabaseName.ne_nil_of_is_valid valid)
  have query : contains "mode=memory".toList (parse s).query = false := by
    simp only [isMemory, Bool.or_eq_false_iff] at stored
    exact stored.2
  have path : ((parse s).withStem (first :: rest)).path ≠ ":memory:".toList := by
    intro same
    cases last : (parse s).directory.getLast? with
    | some c =>
      have separates := is_separator_of_directory _ c last
      have member : c ∈ ":memory:".toList := by
        rw [← same]
        exact List.mem_append_left _ (List.mem_append_left _ (List.mem_of_getLast? last))
      have none : ":memory:".toList.all (fun c => !isSeparator c) = true := by decide
      have free := List.all_eq_true.mp none c member
      rw [separates] at free
      cases free
    | none =>
      have directory : (parse s).directory = [] := List.getLast?_eq_none_iff.mp last
      rw [withStem, directory] at same
      have colon : first = ':' := (List.cons.inj same).1
      subst colon
      exact DatabaseName.not_mem_of_is_valid valid
        (by decide : DatabaseName.continuesName ':' = false)
        List.mem_cons_self
  have nonempty : ((parse s).withStem (first :: rest)).path.isEmpty = false := by
    simp [withStem]
  rw [isMemory, nonempty, beq_eq_false_iff_ne.mpr path]
  exact query

/-- The stem that is replaced leaves no trace. -/
theorem with_stem_with_stem (other : List Char) :
    ((parse s).withStem name).withStem other = (parse s).withStem other := by
  have kept := restemmed_with_stem s valid
  have extension := kept.extension
  rw [withStem, kept.directory, show (cutExtension ((parse s).withStem name).fileName).2 =
    (parse s).extension from extension]
  rfl

end Restemming

end SqlAccess.FilePath
