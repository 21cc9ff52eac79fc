import SqlAccess.ConnectionString
import SqlAccess.Proofs.ConnectionString.FileStem
import SqlAccess.Proofs.ConnectionString.Segments

/-!
# The database of files and of settings

Reading the database of a connection string and writing another one fit together. Main statement:
where a name can be written, it is what is read back; writing a second name gives what writing it at
once would have given; and all else stays, the parts of a file name around its stem and the segments
that set something else. For servers this is about strings of settings; URLs have a module of their
own.
-/

namespace SqlAccess.ConnectionString

open Text

section Urls

/-- A URL begins with one of the schemes, in any case. -/
theorem is_url_iff {s : List Char} :
    isUrl s = true ↔ ∃ scheme ∈ urlSchemes, scheme.toList <+: lowerAscii s := by
  simp only [isUrl, List.any_eq_true, is_some_drop_start?_iff]

/-- What begins with a URL is one. -/
theorem is_url_of_begins {s whole : List Char} (url : isUrl s = true) (begins : s <+: whole) :
    isUrl whole = true := by
  obtain ⟨scheme, listed, found⟩ := is_url_iff.mp url
  exact is_url_iff.mpr ⟨scheme, listed, found.trans (List.IsPrefix.map Char.toLower begins)⟩

/-- No scheme holds a mark of settings. -/
theorem marks_of_scheme {scheme : String} (listed : scheme ∈ urlSchemes) :
    ';' ∉ scheme.toList ∧ '=' ∉ scheme.toList := by
  simp only [urlSchemes, List.mem_cons, List.not_mem_nil, or_false] at listed
  rcases listed with rfl | rfl | rfl | rfl <;> decide

/-- A URL shows before the first semicolon or equals sign. -/
theorem is_url_of_append {s rest : List Char} (follows : ∀ c ∈ rest.head?, c = ';' ∨ c = '=')
    (url : isUrl (s ++ rest) = true) : isUrl s = true := by
  obtain ⟨scheme, listed, found⟩ := is_url_iff.mp url
  obtain ⟨noSemicolon, noEquals⟩ := marks_of_scheme listed
  rw [lower_ascii_append] at found
  by_cases short : (lowerAscii s).length < scheme.toList.length
  · obtain ⟨c, more, reached, behind⟩ := exists_of_prefix_append found short
    have member : c ∈ scheme.toList := by
      rw [reached]
      exact List.mem_append_right _ List.mem_cons_self
    cases rest with
    | nil => exact absurd (List.prefix_nil.mp behind) (List.cons_ne_nil c more)
    | cons d others =>
      rw [lowerAscii, List.map_cons, List.cons_prefix_cons] at behind
      rcases follows d rfl with rfl | rfl <;> rw [behind.1] at member
      · exact absurd member noSemicolon
      · exact absurd member noEquals
  · exact is_url_iff.mpr ⟨scheme, listed, List.prefix_of_prefix_length_le found
      (List.prefix_append _ _) (Nat.le_of_not_lt short)⟩

end Urls

section Settings

variable {s name : List Char}

/-- Trimmed settings that do not begin with a semicolon begin with a segment that counts. -/
theorem exists_first_segment (trimmed : Trimmed s) (nonempty : s ≠ [])
    (first : s.head? ≠ some ';') :
    ∃ c letters others, splitOn ';' s = (c :: letters) :: others ∧ isBlank c = false ∧
      c :: letters <+: s := by
  obtain ⟨segment, others, pieces⟩ := List.exists_cons_of_ne_nil (split_on_ne_nil ';' s)
  obtain ⟨behind, joined, follows⟩ := exists_join_with_cons ';' segment others
  rw [← pieces, join_with_split_on] at joined
  cases segment with
  | nil =>
    obtain ⟨d, more, rfl⟩ := List.exists_cons_of_ne_nil nonempty
    rw [List.nil_append] at joined
    rw [joined] at first
    cases behind with
    | nil => cases joined
    | cons e _ => exact absurd (congrArg some (follows e rfl)) first
  | cons c letters =>
    refine ⟨c, letters, others, pieces, trimmed.starts c ?_, behind, joined.symm⟩
    rw [joined]
    rfl

/-- Settings begin as they did, up to the first semicolon or equals sign. -/
theorem with_database_begins (trimmed : Trimmed s) (nonempty : s ≠ [])
    (first : s.head? ≠ some ';') (name : List Char) :
    ∃ kept rest, Settings.withDatabase s name = kept ++ rest ∧ kept <+: s ∧
      ∀ c ∈ rest.head?, c = ';' ∨ c = '=' := by
  obtain ⟨c, letters, others, pieces, ink, begins⟩ :=
    exists_first_segment trimmed nonempty first
  have counts : (!(c :: letters).all isBlank) = true := by simp [ink]
  rw [Settings.withDatabase, pieces,
    List.filter_cons_of_pos (p := fun segment : List Char => !segment.all isBlank) counts]
  cases sets : Settings.setsDatabase (c :: letters) with
  | false =>
    rw [Settings.replace_database_of_other sets]
    obtain ⟨rest, written, semicolon⟩ := exists_join_with_cons ';' (trim (c :: letters)) _
    refine ⟨_, rest, written, (trim_begins ?_).trans begins, fun d first =>
      Or.inl (semicolon d first)⟩
    rintro d ⟨⟩
    exact ink
  | true =>
    obtain ⟨key, value, cut, names⟩ := Settings.sets_database_iff.mp sets
    obtain ⟨whole, _⟩ := cut_at_eq_some_iff.mp cut
    rw [Settings.replace_database_of_sets cut names]
    obtain ⟨rest, written, _⟩ := exists_join_with_cons ';' (trim key ++ '=' :: name) _
    have keyStarts : ∀ d ∈ key.head?, isBlank d = false := by
      intro d first
      cases key with
      | nil => cases first
      | cons e _ =>
        rw [← Option.some.inj first, ← (List.cons.inj whole).1]
        exact ink
    have inSegment : key <+: c :: letters := ⟨'=' :: value, whole.symm⟩
    refine ⟨trim key, '=' :: (name ++ rest), ?_, (trim_begins keyStarts).trans
      (inSegment.trans begins), ?_⟩
    · rw [written, List.append_assoc, List.cons_append]
    · rintro d ⟨⟩
      exact Or.inr rfl

/-- Settings that are no URL do not become one. -/
theorem is_url_with_database (trimmed : Trimmed s) (nonempty : s ≠ [])
    (first : s.head? ≠ some ';') (settings : isUrl s = false) (name : List Char) :
    isUrl (Settings.withDatabase s name) = false := by
  obtain ⟨kept, rest, written, begins, follows⟩ :=
    with_database_begins trimmed nonempty first name
  rw [Bool.eq_false_iff, written]
  intro url
  rw [is_url_of_begins (is_url_of_append follows url) begins] at settings
  cases settings

end Settings

/-- What a string has in common with the one that it was made from by setting the database: the
parts around the stem of a file, or all other segments. -/
def Kept (dialect : Dialect) (before after name : List Char) : Prop :=
  match dialect with
  | .sqlite => FilePath.Restemmed (FilePath.parse before) (FilePath.parse after) name
  | .postgres | .sqlServer =>
    Settings.Rewritten name (Settings.countedSegments before) (splitOn ';' after)

section Forms

variable {dialect : Dialect} {connectionString : String}

/-- Where a string is written, it is for a name and from a string that is not blank, and a file of
SQLite is not in memory. -/
theorem of_with_database_ok {name s : String}
    (written : withDatabase dialect connectionString name = .ok s) :
    DatabaseName.isValid name.toList = true ∧ trim connectionString.toList ≠ [] ∧
      (dialect = .sqlite → (FilePath.parse (trim connectionString.toList)).isMemory = false) := by
  rw [← DatabaseName.validate_eq_ok_iff]
  unfold withDatabase at written
  cases valid : DatabaseName.validate name with
  | error error => simp [valid, bind, Except.bind] at written
  | ok _ =>
    simp only [valid, bind, Except.bind] at written
    split at written
    · cases written
    · rename_i visible
      refine ⟨rfl, by simpa using visible, ?_⟩
      rintro rfl
      rw [Bool.eq_false_iff]
      intro memory
      simp [memory] at written

/-- What is written for a file that is not in memory. -/
theorem with_database_file (visible : trim connectionString.toList ≠ [])
    (stored : (FilePath.parse (trim connectionString.toList)).isMemory = false) (name : String) :
    withDatabase .sqlite connectionString name =
      (DatabaseName.validate name).map fun _ =>
        String.ofList
          ((FilePath.parse (trim connectionString.toList)).withStem name.toList).text := by
  unfold withDatabase
  cases DatabaseName.validate name with
  | error error => rfl
  | ok _ => simp [visible, stored, bind, Except.bind, Except.map, pure, Except.pure]

/-- What is written for settings. -/
theorem with_database_settings (server : dialect ≠ .sqlite)
    (visible : trim connectionString.toList ≠ [])
    (settings : isUrl (trim connectionString.toList) = false) (name : String) :
    withDatabase dialect connectionString name =
      (DatabaseName.validate name).map fun _ =>
        String.ofList (Settings.withDatabase (trim connectionString.toList) name.toList) := by
  unfold withDatabase
  cases DatabaseName.validate name with
  | error error => rfl
  | ok _ =>
    cases dialect with
    | sqlite => exact absurd rfl server
    | postgres | sqlServer =>
      simp [visible, settings, bind, Except.bind, Except.map, pure, Except.pure]

end Forms

section Files

variable {connectionString a : String}
  (valid : DatabaseName.isValid a.toList = true)
  (visible : trim connectionString.toList ≠ [])
  (stored : (FilePath.parse (trim connectionString.toList)).isMemory = false)

include valid visible stored

/-- The lens on files. -/
theorem with_database_lens_file {s : String}
    (written : s.toList =
      ((FilePath.parse (trim connectionString.toList)).withStem a.toList).text) :
    databaseName? .sqlite s = some a ∧
      (∀ b, withDatabase .sqlite s b = withDatabase .sqlite connectionString b) ∧
      Kept .sqlite (trim connectionString.toList) s.toList a.toList := by
  have kept := FilePath.restemmed_with_stem (trim connectionString.toList) valid
  have reread := FilePath.parse_with_stem (trim connectionString.toList) valid
  have stays := FilePath.is_memory_with_stem (trim connectionString.toList) valid stored
  have nonempty := DatabaseName.ne_nil_of_is_valid valid
  have trimmed : trim s.toList = s.toList := by
    have whole := trimmed_trim connectionString.toList
    rw [← FilePath.text_parse (trim connectionString.toList), FilePath.text_eq] at whole
    rw [written, FilePath.text_with_stem]
    exact (whole.replaced (DatabaseName.trimmed_of_is_valid valid) nonempty).trim_eq
  have visibleStill : s.toList ≠ [] := by
    rw [written, FilePath.text_with_stem]
    simp [nonempty]
  refine ⟨?_, fun b => ?_, ?_⟩
  · have stem : (FilePath.parse s.toList).stem = a.toList := by
      rw [written, reread, FilePath.stem, stays]
      exact kept.stem
    have named : (some a.toList).filter (fun stem : List Char => !stem.isEmpty) =
        some a.toList := by simp [nonempty]
    simp only [databaseName?, trimmed, stem, named, Option.map_some, String.ofList_toList]
  · rw [with_database_file visible stored, with_database_file (by rwa [trimmed])
      (by rw [trimmed, written, reread, stays]), trimmed, written, reread,
      FilePath.with_stem_with_stem _ valid]
  · rw [Kept, written, reread]
    exact kept

end Files

section Servers

variable {dialect : Dialect} {connectionString a : String} (server : dialect ≠ .sqlite)
  (valid : DatabaseName.isValid a.toList = true)
  (visible : trim connectionString.toList ≠ [])
  (settings : isUrl (trim connectionString.toList) = false)
  (first : (trim connectionString.toList).head? ≠ some ';')

include server valid visible settings first

/-- The lens on settings. -/
theorem with_database_lens_settings {s : String}
    (written : s.toList = Settings.withDatabase (trim connectionString.toList) a.toList) :
    databaseName? dialect s = some a ∧
      (∀ b, withDatabase dialect s b = withDatabase dialect connectionString b) ∧
      Kept dialect (trim connectionString.toList) s.toList a.toList := by
  have trimmed : trim s.toList = s.toList := by
    rw [written]
    exact (Settings.trimmed_with_database _ valid).trim_eq
  have settingsStill : isUrl s.toList = false := by
    rw [written]
    exact is_url_with_database (trimmed_trim _) visible first settings _
  have read : Settings.database? s.toList = some a.toList := by
    rw [written]
    exact Settings.database?_with_database _ valid
  have visibleStill : s.toList ≠ [] := by
    intro empty
    rw [empty] at read
    cases read
  refine ⟨?_, fun b => ?_, ?_⟩
  · cases dialect with
    | sqlite => exact absurd rfl server
    | postgres | sqlServer => simp [databaseName?, trimmed, settingsStill, read]
  · rw [with_database_settings server visible settings,
      with_database_settings server (by rwa [trimmed]) (by rwa [trimmed]), trimmed, written,
      Settings.with_database_with_database _ valid]
  · have rewritten := Settings.rewritten_with_database (trim connectionString.toList) valid
    rw [← written] at rewritten
    cases dialect with
    | sqlite => exact absurd rfl server
    | postgres | sqlServer => exact rewritten

end Servers

/-- Reading the database and writing another one fit together, for files and for settings: the name
that was written is read back, a second name gives what it would have given at once, and all else
stays.

Proof: files and settings are taken apart. In the path of a file the stem is replaced and all around
it stays. Of the settings the first that sets the database is replaced and later ones are dropped,
so that the one that was written is the first that is found. -/
theorem with_database_lens (dialect : Dialect) (connectionString a s : String)
    (form : dialect ≠ .sqlite → isUrl (trim connectionString.toList) = false ∧
      (trim connectionString.toList).head? ≠ some ';')
    (written : withDatabase dialect connectionString a = .ok s) :
    databaseName? dialect s = some a ∧
      (∀ b, withDatabase dialect s b = withDatabase dialect connectionString b) ∧
      Kept dialect (trim connectionString.toList) s.toList a.toList := by
  obtain ⟨valid, visible, stored⟩ := of_with_database_ok written
  have accepted : DatabaseName.validate a = .ok () := DatabaseName.validate_eq_ok_iff.mpr valid
  by_cases file : dialect = .sqlite
  · subst file
    rw [with_database_file visible (stored rfl), accepted] at written
    simp only [Except.map, Except.ok.injEq] at written
    exact with_database_lens_file valid visible (stored rfl)
      (by rw [← written, String.toList_ofList])
  · obtain ⟨settings, first⟩ := form file
    rw [with_database_settings file visible settings, accepted] at written
    simp only [Except.map, Except.ok.injEq] at written
    exact with_database_lens_settings file valid visible settings first
      (by rw [← written, String.toList_ofList])

/-- What a result holds as an option is what it is. -/
theorem ok_of_to_option {ε α : Type} {result : Except ε α} {value : α}
    (found : result.toOption = some value) : result = .ok value := by
  cases result with
  | error error => cases found
  | ok other => exact congrArg Except.ok (Option.some.inj found)

/-- A file in a directory behind the longer scheme, and settings that set the database three times
and leave a segment blank. -/
theorem with_database_lens_crowded :
    let file := " SQLite://data.d\\.old.shop.DB?mode=rw "
    let settings := " Server = h ; Initial Catalog =Old;;PWD=x=y;database=Older; Trusted;DATABASE= "
    (withDatabase .sqlite file "Größe_2" = .ok "SQLite://data.d\\Größe_2.DB?mode=rw" ∧
      databaseName? .sqlite "SQLite://data.d\\Größe_2.DB?mode=rw" = some "Größe_2" ∧
      (∀ b, withDatabase .sqlite "SQLite://data.d\\Größe_2.DB?mode=rw" b =
        withDatabase .sqlite file b) ∧
      Kept .sqlite (trim file.toList) "SQLite://data.d\\Größe_2.DB?mode=rw".toList
        "Größe_2".toList) ∧
    (isUrl (trim settings.toList) = false ∧ (trim settings.toList).head? ≠ some ';' ∧
      withDatabase .sqlServer settings "New" =
        .ok "Server = h;Initial Catalog=New;PWD=x=y;Trusted" ∧
      databaseName? .sqlServer "Server = h;Initial Catalog=New;PWD=x=y;Trusted" = some "New" ∧
      (∀ b, withDatabase .sqlServer "Server = h;Initial Catalog=New;PWD=x=y;Trusted" b =
        withDatabase .sqlServer settings b) ∧
      Kept .sqlServer (trim settings.toList)
        "Server = h;Initial Catalog=New;PWD=x=y;Trusted".toList "New".toList) := by
  have written : withDatabase .sqlite " SQLite://data.d\\.old.shop.DB?mode=rw " "Größe_2" =
      .ok "SQLite://data.d\\Größe_2.DB?mode=rw" := ok_of_to_option (by decide +kernel)
  have rewritten : withDatabase .sqlServer
      " Server = h ; Initial Catalog =Old;;PWD=x=y;database=Older; Trusted;DATABASE= " "New" =
      .ok "Server = h;Initial Catalog=New;PWD=x=y;Trusted" := ok_of_to_option (by decide +kernel)
  refine ⟨⟨written,
    with_database_lens .sqlite _ _ _ (fun server => absurd rfl server) written⟩,
    by decide +kernel, by decide +kernel, rewritten,
    with_database_lens .sqlServer _ _ _ (fun _ => ⟨by decide +kernel, by decide +kernel⟩)
      rewritten⟩

end SqlAccess.ConnectionString
