import SqlAccess.Proofs.ConnectionString.Rewriting
import SqlAccess.Proofs.Url.Reading

/-!
# The database of URLs

Reading the database of a URL and writing another one fit together as they do for files and for
settings. Main statement: in a connection string that is read as a URL every name can be written;
the result is again such a URL and differs in its path alone; the name is what is read back, letters
and digits of every script included; and writing a second name gives what writing it at once would
have given. That a written URL reads back as the URL is no assumption here.
-/

namespace SqlAccess.ConnectionString

open Text

section Schemes

/-- A scheme is a word of lower-case letters in front of its mark. -/
theorem word_of_scheme {scheme : String} (listed : scheme ∈ urlSchemes) :
    ∃ word, scheme.toList = word ++ "://".toList ∧ ∀ c ∈ word, c.isLower = true := by
  simp only [urlSchemes, List.mem_cons, List.not_mem_nil, or_false] at listed
  rcases listed with rfl | rfl | rfl | rfl
  · exact ⟨"postgres".toList, rfl, forall_mem_of_all (by decide)⟩
  · exact ⟨"postgresql".toList, rfl, forall_mem_of_all (by decide)⟩
  · exact ⟨"mssql".toList, rfl, forall_mem_of_all (by decide)⟩
  · exact ⟨"sqlserver".toList, rfl, forall_mem_of_all (by decide)⟩

/-- What is a lower-case letter in lower case is visible and no colon. -/
theorem visible_of_to_lower {c : Char} (letter : c.toLower.isLower = true) :
    Url.visible c = true ∧ c ≠ ':' := by
  cases upper : c.isUpper with
  | true =>
    obtain ⟨least, greatest⟩ := is_upper_iff.mp upper
    refine ⟨?_, ?_⟩
    · simp only [Url.visible, Bool.and_eq_true, decide_eq_true_eq]
      omega
    · rintro rfl
      exact absurd least (by decide)
  | false =>
    rw [to_lower_of_is_upper_eq_false upper] at letter
    exact Url.visible_of_is_lower letter

/-- A URL begins with its scheme, in some case, and the mark behind it. -/
theorem exists_of_is_url {s : List Char} (recognized : isUrl s = true) :
    ∃ word rest, s = word ++ "://".toList ++ rest ∧
      (∃ scheme ∈ urlSchemes, scheme.toList = lowerAscii word ++ "://".toList) ∧
      ∀ c ∈ lowerAscii word, c.isLower = true := by
  obtain ⟨scheme, listed, behind, whole⟩ := is_url_iff.mp recognized
  obtain ⟨lowerWord, form, lower⟩ := word_of_scheme listed
  rw [form] at whole
  obtain ⟨front, rest, rfl, frontLower, _⟩ := List.map_eq_append_iff.mp whole.symm
  obtain ⟨word, mark, rfl, rfl, markLower⟩ := List.map_eq_append_iff.mp frontLower
  have same : mark = "://".toList := by
    have stays : mark.map Char.toLower = mark := by
      refine (List.map_congr_left fun c member => ?_).trans (List.map_id _)
      have inside : c.toLower ∈ "://".toList := by
        rw [← markLower]
        exact List.mem_map_of_mem member
      have noLetter : ∀ d ∈ "://".toList, d.isAlpha = false := forall_mem_of_all (by decide)
      exact (eq_of_to_lower_eq rfl (noLetter _ inside)).symm
    rw [← stays, markLower]
  subst same
  exact ⟨word, rest, rfl, ⟨scheme, listed, form⟩, lower⟩

/-- What a recognized URL is read as has one of the schemes, in lower case. -/
theorem scheme_of_parse? {s : List Char} {url : Url} (recognized : isUrl s = true)
    (read : Url.parse? s = .ok url) :
    (∃ scheme ∈ urlSchemes, scheme.toList = url.scheme ++ "://".toList) ∧
      (∀ c ∈ url.scheme, c.isLower = true) ∧ Url.Settled url := by
  obtain ⟨word, rest, rfl, known, lower⟩ := exists_of_is_url recognized
  have letters (c : Char) (member : c ∈ word) : Url.visible c = true ∧ c ≠ ':' :=
    visible_of_to_lower (lower _ (List.mem_map_of_mem member))
  have plain : ∀ c ∈ word ++ "://".toList, Url.visible c = true :=
    List.forall_mem_append.mpr
      ⟨fun c member => (letters c member).1, forall_mem_of_all (by decide)⟩
  have colonFree : ':' ∉ word := fun member => (letters _ member).2 rfl
  rw [Url.parse?_eq, Url.cleaned_append plain (by simp),
    show "://".toList = [':', '/', '/'] from rfl, cut_at_part_append colonFree] at read
  obtain ⟨scheme, settled⟩ := Url.settled_of_read_behind read
  rw [scheme]
  exact ⟨known, lower, settled⟩

/-- What is written of a URL with one of the schemes is recognized. -/
theorem is_url_text {url : Url}
    (known : ∃ scheme ∈ urlSchemes, scheme.toList = url.scheme ++ "://".toList)
    (lower : ∀ c ∈ url.scheme, c.isLower = true) : isUrl url.text = true := by
  obtain ⟨scheme, listed, form⟩ := known
  refine is_url_iff.mpr ⟨scheme, listed, ?_⟩
  have mark : lowerAscii "://".toList = "://".toList := by decide
  rw [Url.text_eq, lower_ascii_append, lower_ascii_append, Url.lower_ascii_of_is_lower lower, mark,
    form]
  exact List.prefix_append _ _

end Schemes

section Names

/-- What is visible has no blanks at its ends. -/
theorem trim_of_visible {s : List Char} (plain : ∀ c ∈ s, Url.visible c = true) :
    trim s = s := by
  refine (trimmed_of_forall fun c member => ?_).trim_eq
  have own := plain c member
  simp only [Url.visible, Bool.and_eq_true, decide_eq_true_eq] at own
  have each : ∀ n < 0x7F, 0x20 < n → isBlank (Char.ofNat n) = false := by decide
  rw [← Char.ofNat_toNat c]
  exact each c.toNat (by omega) own.1

variable {name : List Char}

/-- What is in no name and no mark of encoding is not in an encoded name. -/
theorem not_mem_encode_of_is_valid (valid : DatabaseName.isValid name = true)
    {escaped : Char → Bool} {c : Char} (unused : DatabaseName.continuesName c = false)
    (foreign : c ∉ Percent.marks) : c ∉ Percent.encode escaped name :=
  Percent.not_mem_encode foreign (DatabaseName.not_mem_of_is_valid valid unused)

/-- An encoded name is decoded to the name. -/
theorem decode_encode_of_is_valid (valid : DatabaseName.isValid name = true)
    (escaped : Char → Bool) : Url.Form.decode (Percent.encode escaped name) = name := by
  have plusless : (Percent.encode escaped name).map (fun c => if c = '+' then ' ' else c) =
      Percent.encode escaped name := by
    refine (List.map_congr_left fun c member => if_neg ?_).trans (List.map_id _)
    rintro rfl
    exact not_mem_encode_of_is_valid valid (by decide) (by decide) member
  have percentless : '%' ∉ name := DatabaseName.not_mem_of_is_valid valid (by decide)
  rw [Url.Form.decode, plusless,
    Percent.decode_encode escaped fun member => absurd member percentless,
    Utf8.decode_lenient_encode]

/-- The name in the path of a URL is read back. -/
theorem url_database?_with_path (url : Url) (valid : DatabaseName.isValid name = true) :
    urlDatabase? (url.withPath ('/' :: name)) = some name := by
  have path : (url.withPath ('/' :: name)).path = '/' :: Percent.encode Url.Path.escaped name :=
    Url.Path.normalized_of_is_valid valid
  have first (c : Char) (begins : c ∈ (Percent.encode Url.Path.escaped name).head?) :
      decide (c = '/') = false := by
    rw [decide_eq_false_iff_not]
    rintro rfl
    exact not_mem_encode_of_is_valid valid (by decide) (by decide) (List.mem_of_mem_head? begins)
  have slashless := take_while_drop_while_append (p := (· = '/')) (s := ['/']) (by simp) first
  have present : (Percent.encode Url.Path.escaped name).isEmpty = false := by
    simpa using fun none =>
      DatabaseName.ne_nil_of_is_valid valid (Percent.encode_eq_nil_iff.mp none)
  have whole : cutAt '&' (Percent.encode Url.Path.escaped name) = none :=
    cut_at_eq_none_iff.mpr (not_mem_encode_of_is_valid valid (by decide) (by decide))
  have dropped : (url.withPath ('/' :: name)).path.dropWhile (· = '/') =
      Percent.encode Url.Path.escaped name := path ▸ slashless.2
  simp only [urlDatabase?, dropped, present, whole, decode_encode_of_is_valid valid]
  rfl

end Names

section Lens

variable {dialect : Dialect} {connectionString : String} {url : Url}

/-- What is written for a URL. -/
theorem with_database_url (server : dialect ≠ .sqlite)
    (recognized : isUrl (trim connectionString.toList) = true)
    (read : Url.parse? (trim connectionString.toList) = .ok url) (name : String) :
    withDatabase dialect connectionString name =
      (DatabaseName.validate name).map fun _ =>
        String.ofList (url.withPath ('/' :: name.toList)).text := by
  have visible : trim connectionString.toList ≠ [] := by
    intro blank
    rw [blank] at recognized
    cases recognized
  unfold withDatabase
  cases DatabaseName.validate name with
  | error error => rfl
  | ok _ =>
    cases dialect with
    | sqlite => exact absurd rfl server
    | postgres | sqlServer =>
      simp [visible, recognized, read, bind, Except.bind, Except.map, pure, Except.pure]

/-- Reading the database of a URL and writing another one fit together: every name can be written,
the result is a URL again, the name is what is read back, a second name gives what it would have
given at once, and nothing but the path differs from the written form of the URL, which itself reads
back as the URL.

Proof: the parts of a URL that was read are settled: written out they are read back as they are.
Another path leaves them settled. The name is encoded as one segment of the path, and what a reader
decodes of that segment is the name. -/
theorem with_database_lens_url (dialect : Dialect) (connectionString a : String) (url : Url)
    (server : dialect ≠ .sqlite)
    (recognized : isUrl (trim connectionString.toList) = true)
    (read : Url.parse? (trim connectionString.toList) = .ok url)
    (valid : DatabaseName.isValid a.toList = true) :
    ∃ s path, withDatabase dialect connectionString a = .ok s ∧
      isUrl (trim s.toList) = true ∧
      databaseName? dialect s = some a ∧
      (∀ b, withDatabase dialect s b = withDatabase dialect connectionString b) ∧
      Url.parse? (trim s.toList) = .ok { url with path := path } ∧
      s.toList = url.origin ++ path ++ url.suffix ∧
      Url.parse? url.text = .ok url := by
  obtain ⟨known, lower, settled⟩ := scheme_of_parse? recognized read
  let changed := url.withPath ('/' :: a.toList)
  have changedSettled : changed.Settled := settled.with_path _
  have trimmed : trim changed.text = changed.text :=
    trim_of_visible (changedSettled.visible_of_mem_text fun c member =>
      (Url.visible_of_is_lower (lower c member)).1)
  have recognizedStill : isUrl changed.text = true := is_url_text known lower
  have readAgain : Url.parse? changed.text = .ok changed := changedSettled.parse?_text lower
  have accepted : DatabaseName.validate a = .ok () := DatabaseName.validate_eq_ok_iff.mpr valid
  refine ⟨String.ofList changed.text, changed.path, ?_, ?_, ?_, ?_, ?_, ?_,
    settled.parse?_text lower⟩
  · rw [with_database_url server recognized read, accepted]
    rfl
  · rw [String.toList_ofList, trimmed, recognizedStill]
  · have named := url_database?_with_path url valid
    cases dialect with
    | sqlite => exact absurd rfl server
    | postgres | sqlServer =>
      simp only [databaseName?, String.toList_ofList, trimmed, recognizedStill, if_true, readAgain,
        changed, named, Option.map_some, String.ofList_toList]
  · intro b
    have readStill : Url.parse? (trim (String.ofList changed.text).toList) = .ok changed := by
      rw [String.toList_ofList, trimmed, readAgain]
    rw [with_database_url server recognized read, with_database_url server
      (by rw [String.toList_ofList, trimmed, recognizedStill]) readStill]
    rfl
  · rw [String.toList_ofList, trimmed, readAgain]
    rfl
  · rw [String.toList_ofList]
    rfl

/-- A URL with a user, a password, an address, a port, a path with dots, a query and a fragment, and
a name of Greek letters and Arabic digits. -/
theorem with_database_lens_url_foreign :
    let connectionString := " PostgreSQL://U ser:p:w@[2001:DB8:0:0::1]:05432/a/../b?x=y z#f g "
    let url : Url := {
      scheme := "postgresql".toList
      credentials := "U%20ser:p%3Aw@".toList
      host := "[2001:db8::1]".toList
      port := some 5432
      path := "/b".toList
      query := some "x=y%20z".toList
      fragment := some "f%20g".toList }
    isUrl (trim connectionString.toList) = true ∧
      Url.parse? (trim connectionString.toList) = .ok url ∧
      DatabaseName.isValid "Ωμ٣".toList = true ∧
      withDatabase .postgres connectionString "Ωμ٣" =
        .ok "postgresql://U%20ser:p%3Aw@[2001:db8::1]:5432/%CE%A9%CE%BC%D9%A3?x=y%20z#f%20g" ∧
      ∃ s path, withDatabase .postgres connectionString "Ωμ٣" = .ok s ∧
        isUrl (trim s.toList) = true ∧
        databaseName? .postgres s = some "Ωμ٣" ∧
        (∀ b, withDatabase .postgres s b = withDatabase .postgres connectionString b) ∧
        Url.parse? (trim s.toList) = .ok { url with path := path } ∧
        s.toList = url.origin ++ path ++ url.suffix ∧
        Url.parse? url.text = .ok url := by
  intro connectionString url
  have recognized : isUrl (trim connectionString.toList) = true := by decide +kernel
  have read : Url.parse? (trim connectionString.toList) = .ok url :=
    ok_of_to_option (by decide +kernel)
  have valid : DatabaseName.isValid "Ωμ٣".toList = true := by decide +kernel
  have written : withDatabase .postgres connectionString "Ωμ٣" =
      .ok "postgresql://U%20ser:p%3Aw@[2001:db8::1]:5432/%CE%A9%CE%BC%D9%A3?x=y%20z#f%20g" :=
    ok_of_to_option (by decide +kernel)
  exact ⟨recognized, read, valid, written,
    with_database_lens_url .postgres connectionString "Ωμ٣" url (by decide) recognized read
      valid⟩

end Lens

end SqlAccess.ConnectionString
