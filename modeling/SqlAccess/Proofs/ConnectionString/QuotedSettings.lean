import Mathlib.Data.List.Forall2
import SqlAccess.Proofs.ConnectionString.Segments
import SqlAccess.Proofs.Lexical.Scan
import SqlAccess.Proofs.Text.Quoted

/-!
# Settings with values in quotes

A driver reads more in a string of settings than is looked for when the database is set: it takes a
value in quotes as one, with semicolons, equals signs and blanks in it. Here is that reading, and
how it fares when the string is cut at every semicolon instead. Main statements: settings that are
put together are read again; and a segment that holds a setting comes apart as the setting does with
its value in quotes, up to blanks around the key.
-/

namespace SqlAccess.Settings

open Text Lexical

variable {s segment : List Char} {pair : List Char × List Char}
  {segments : List (List Char)} {pairs : List (List Char × List Char)}

section Reading

/-- Semicolons outside quotes cut. -/
def quotes : Scan Bool where
  next quoted c := if c = '"' then !quoted else quoted
  cuts quoted c := !quoted && c = ';'

/-- What a value stands for: what its quotes enclose, or else itself. A quote elsewhere makes it no
value. -/
def content? (value : List Char) : Option (List Char) :=
  let content := (Quoted.inside? '"' '"' value).getD value
  if '"' ∈ content then none else some content

/-- The key of a segment, and what its value stands for. -/
def setting? (segment : List Char) : Option (List Char × List Char) :=
  (pair? segment).bind fun pair =>
    if '"' ∈ pair.1 then none
    else (content? (trim pair.2)).map fun content => (trim pair.1, content)

/-- The segments between the semicolons outside quotes, without the blank ones. -/
def quotedSegments (s : List Char) : List (List Char) :=
  (quotes.pieces false (trim s)).filter fun segment => !segment.all isBlank

/-- The settings of a string as a driver reads them. -/
def settings? (s : List Char) : Option (List (List Char × List Char)) :=
  (quotedSegments s).mapM setting?

/-- A setting with its value in quotes. -/
def written (pair : List Char × List Char) : List Char :=
  pair.1 ++ '=' :: '"' :: (pair.2 ++ ['"'])

end Reading

section Scanning

/-- Every cut is made outside quotes, where a semicolon leaves the scan. -/
theorem next_quotes_of_cuts : ∀ quoted c, quotes.cuts quoted c = true →
    c = ';' ∧ quoted = false ∧ quotes.next quoted c = false := by
  intro quoted c cuts
  obtain ⟨outside, rfl⟩ : quoted = false ∧ c = ';' := by simpa [quotes] using cuts
  exact ⟨rfl, outside, by rw [outside]; rfl⟩

/-- A split cuts the pieces between the semicolons outside quotes at the other ones. -/
theorem split_on_eq_flat_map_quotes (s : List Char) :
    splitOn ';' s = (quotes.pieces false s).flatMap (splitOn ';') :=
  Scan.split_on_eq_flat_map_pieces (fun quoted c cuts => (next_quotes_of_cuts quoted c cuts).1)
    false s

/-- A text without quotes and semicolons is passed. -/
theorem through_quotes_of_plain (quoteless : '"' ∉ s) (semicolonless : ';' ∉ s)
    (quoted : Bool) :
    quotes.through quoted s = some quoted := by
  refine Scan.through_of_inert fun c member => ⟨?_, if_neg ?_⟩
  · have other : c ≠ ';' := fun same => semicolonless (same ▸ member)
    simp [quotes, other]
  · exact fun same => quoteless (same ▸ member)

/-- What stands in quotes is passed, and the scan is behind it where it was before. -/
theorem through_quotes_enclosed {content : List Char} (quoteless : '"' ∉ content) :
    quotes.through false ('"' :: (content ++ ['"'])) = some false := by
  have inside : quotes.through true content = some true :=
    Scan.through_of_inert fun c member =>
      ⟨by simp [quotes], if_neg fun same : c = '"' => quoteless (same ▸ member)⟩
  have opens : quotes.through false ('"' :: (content ++ ['"'])) =
      quotes.through true (content ++ ['"']) := rfl
  rw [opens, Scan.through_append, inside]
  rfl

/-- A text without quotes that is passed outside of them has no semicolon. -/
theorem not_mem_of_through {after : Bool} (quoteless : '"' ∉ s) (rest : List Char)
    (passes : quotes.through false (s ++ rest) = some after) : ';' ∉ s := by
  induction s with
  | nil => exact List.not_mem_nil
  | cons c others inductionHypothesis =>
    rw [List.cons_append, Scan.through] at passes
    split at passes
    · cases passes
    · rename_i uncut
      have stays : quotes.next false c = false :=
        if_neg (Ne.symm (List.ne_of_not_mem_cons quoteless))
      rw [stays] at passes
      refine List.not_mem_cons_of_ne_of_not_mem ?_
        (inductionHypothesis (List.not_mem_of_not_mem_cons quoteless) passes)
      rintro rfl
      exact uncut rfl

/-- Blanks are passed. -/
theorem through_quotes_of_blank (blank : s.all isBlank = true) (quoted : Bool) :
    quotes.through quoted s = some quoted := by
  have visible {c : Char} (ink : isBlank c = false) : c ∉ s := fun member => by
    rw [List.all_eq_true.mp blank c member] at ink
    cases ink
  exact through_quotes_of_plain (visible (by decide)) (visible (by decide)) quoted

/-- Blanks around a text make no difference to where the scan is behind it. -/
theorem through_quotes_trim (s : List Char) (quoted : Bool) :
    quotes.through quoted (trim s) = quotes.through quoted s := by
  obtain ⟨front, back, spaced, frontBlank, backBlank⟩ := exists_spaced s
  have behind : (quotes.through quoted (trim s)).bind (quotes.through · back) =
      quotes.through quoted (trim s) := by
    cases quotes.through quoted (trim s) with
    | none => rfl
    | some after => exact through_quotes_of_blank backBlank after
  conv_rhs => rw [spaced, List.append_assoc, Scan.through_append,
    through_quotes_of_blank frontBlank, Option.bind_some, Scan.through_append, behind]

end Scanning

section Values

variable {key content : List Char}

/-- A value stands for what it encloses, or for itself. -/
theorem content?_eq_some_iff {value : List Char} : content? value = some content ↔
    '"' ∉ content ∧ (value = content ∨ value = '"' :: (content ++ ['"'])) := by
  unfold content?
  cases found : Quoted.inside? '"' '"' value with
  | some inner =>
    obtain rfl := Quoted.inside?_eq_some_iff.mp found
    simp only [Option.getD_some, Option.ite_none_left_eq_some, Option.some.injEq]
    constructor
    · rintro ⟨quoteless, rfl⟩
      exact ⟨quoteless, Or.inr rfl⟩
    · rintro ⟨quoteless, rfl | same⟩
      · exact absurd List.mem_cons_self quoteless
      · have same : inner = content := by simpa using same
        exact ⟨same ▸ quoteless, same⟩
  | none =>
    simp only [Option.getD_none, Option.ite_none_left_eq_some, Option.some.injEq]
    constructor
    · rintro ⟨quoteless, rfl⟩
      exact ⟨quoteless, Or.inl rfl⟩
    · rintro ⟨quoteless, rfl | rfl⟩
      · exact ⟨quoteless, rfl⟩
      · rw [Quoted.inside?_eq_some_iff.mpr rfl] at found
        cases found

/-- What a segment that has a setting looks like. -/
theorem setting?_eq_some_iff : setting? segment = some (key, content) ↔
    ∃ front value, segment = front ++ '=' :: value ∧ '=' ∉ front ∧ '"' ∉ front ∧
      trim front = key ∧ content? (trim value) = some content := by
  simp only [setting?, Option.bind_eq_some_iff, Option.ite_none_left_eq_some,
    Option.map_eq_some_iff, Prod.mk.injEq, Prod.exists, pair?, cut_at_eq_some_iff]
  constructor
  · rintro ⟨front, value, ⟨whole, equalsFree⟩, quoteless, _, held, trimmed, rfl⟩
    exact ⟨front, value, whole, equalsFree, quoteless, trimmed, held⟩
  · rintro ⟨front, value, whole, equalsFree, quoteless, trimmed, held⟩
    exact ⟨front, value, ⟨whole, equalsFree⟩, quoteless, content, held, trimmed, rfl⟩

/-- Blanks around a segment make no difference to its setting. -/
theorem setting?_trim (segment : List Char) : setting? (trim segment) = setting? segment := by
  have ink : isBlank '"' = false := by decide
  have quotes (front : List Char) : '"' ∈ trimStart front ↔ '"' ∈ front := by
    rw [← mem_trim_iff ink, trim_trim_start, mem_trim_iff ink]
  rw [setting?, setting?, pair?_trim]
  cases pair? segment with
  | none => rfl
  | some pair =>
    simp only [Option.map_some, Option.bind_some, trim_trim_start, trim_trim_end, quotes]

end Values

section Forms

/-- What a trimmed setting looks like. -/
inductive Form (pair : List Char × List Char) : List Char → Prop
  /-- A value without quotes is one without semicolons. -/
  | bare {front value : List Char} (starts : ∀ c ∈ front.head?, isBlank c = false)
      (equalsFree : '=' ∉ front) (trimmed : trim front = pair.1)
      (quoteless : '"' ∉ front ++ '=' :: value) (semicolonless : ';' ∉ front ++ '=' :: value)
      (held : trim value = pair.2) :
      Form pair (front ++ '=' :: value)
  /-- A value in quotes may have blanks in front. -/
  | enclosed {front gap : List Char} (starts : ∀ c ∈ front.head?, isBlank c = false)
      (equalsFree : '=' ∉ front) (trimmed : trim front = pair.1)
      (quoteless : '"' ∉ front) (semicolonless : ';' ∉ front) (blank : gap.all isBlank = true)
      (contentQuoteless : '"' ∉ pair.2) :
      Form pair (front ++ '=' :: (gap ++ '"' :: (pair.2 ++ ['"'])))

/-- A segment that is passed and has a setting has one of the two forms. -/
theorem form_of_setting? {after : Bool} (passes : quotes.through false segment = some after)
    (reads : setting? segment = some pair) : Form pair (trim segment) := by
  obtain ⟨key, content⟩ := pair
  obtain ⟨front, value, rfl, equalsFree, quoteless, rfl, held⟩ := setting?_eq_some_iff.mp reads
  obtain ⟨contentQuoteless, form⟩ := content?_eq_some_iff.mp held
  have ink : isBlank '"' = false := by decide
  have whole : trim (front ++ '=' :: value) = trimStart front ++ '=' :: trimEnd value :=
    trim_append_cons (by decide) front value
  have less {c : Char} (free : c ∉ front) : c ∉ trimStart front := fun member =>
    free ((List.dropWhile_sublist isBlank).subset member)
  rcases form with bare | enclosed
  · have allQuoteless : '"' ∉ trim (front ++ '=' :: value) := by
      have valueQuoteless : '"' ∉ value := by rwa [← mem_trim_iff ink, bare]
      rw [mem_trim_iff ink]
      simp [quoteless, valueQuoteless]
    have allSemicolonless : ';' ∉ trim (front ++ '=' :: value) := by
      rw [← through_quotes_trim, ← List.append_nil (trim _)] at passes
      exact not_mem_of_through allQuoteless [] passes
    rw [whole] at allQuoteless allSemicolonless ⊢
    exact .bare (head?_trim_start front) (less equalsFree) (trim_trim_start front) allQuoteless
      allSemicolonless (by rw [trim_trim_end, bare])
  · obtain ⟨gap, back, spaced, gapBlank, backBlank⟩ := exists_spaced value
    have ends : trimEnd value = gap ++ '"' :: (content ++ ['"']) := by
      rw [spaced, trim_end_append_blank backBlank, enclosed]
      refine trim_end_eq_self fun c last => ?_
      rw [← List.cons_append, ← List.append_assoc, List.getLast?_concat] at last
      rwa [← Option.some.inj last]
    rw [whole, ends]
    exact .enclosed (head?_trim_start front) (less equalsFree) (trim_trim_start front)
      (less quoteless) (less (not_mem_of_through quoteless _ passes)) gapBlank contentQuoteless

/-- Both forms are passed. -/
theorem Form.through (form : Form pair s) : quotes.through false s = some false := by
  cases form with
  | bare _ _ _ quoteless semicolonless _ =>
    exact through_quotes_of_plain quoteless semicolonless false
  | enclosed _ _ _ quoteless semicolonless blank contentQuoteless =>
    have equals : quotes.through false ['='] = some false := rfl
    rw [List.append_cons, Scan.through_append, Scan.through_append,
      through_quotes_of_plain quoteless semicolonless, Option.bind_some, equals, Option.bind_some,
      Scan.through_append, through_quotes_of_blank blank, Option.bind_some]
    exact through_quotes_enclosed contentQuoteless

/-- A segment outside quotes that has a setting. -/
def Sets (segment : List Char) (pair : List Char × List Char) : Prop :=
  quotes.through false segment = some false ∧ setting? segment = some pair

/-- What is passed and has a setting ends outside quotes. -/
theorem sets_of_setting? {after : Bool} (passes : quotes.through false segment = some after)
    (reads : setting? segment = some pair) : Sets segment pair :=
  ⟨through_quotes_trim segment false ▸ (form_of_setting? passes reads).through, reads⟩

/-- Blanks around a segment make no difference to its setting. -/
theorem Sets.trim (sets : Sets segment pair) : Sets (trim segment) pair :=
  ⟨(through_quotes_trim segment false).trans sets.1, (setting?_trim segment).trans sets.2⟩

/-- Reading all pieces is reading each of them. -/
theorem mapm_eq_some_iff_forall₂ {α β : Type} {read : α → Option β} {pieces : List α}
    {values : List β} :
    pieces.mapM read = some values ↔
      List.Forall₂ (fun piece value => read piece = some value) pieces values := by
  induction pieces generalizing values with
  | nil => simp [eq_comm]
  | cons piece rest inductionHypothesis =>
    cases values with
    | nil => simp [Option.bind_eq_some_iff]
    | cons value others => simp [Option.bind_eq_some_iff, inductionHypothesis]

/-- What is related item by item has a counterpart for each item. -/
theorem exists_of_forall₂ {α β : Type} {related : α → β → Prop} {items : List α}
    {others : List β} (all : List.Forall₂ related items others) {item : α}
    (member : item ∈ items) :
    ∃ other ∈ others, related item other := by
  induction all with
  | nil => cases member
  | cons first _ inductionHypothesis =>
    rcases List.mem_cons.mp member with rfl | later
    · exact ⟨_, List.mem_cons_self, first⟩
    · obtain ⟨other, listed, found⟩ := inductionHypothesis later
      exact ⟨other, List.mem_cons_of_mem _ listed, found⟩

/-- Where settings are read, each segment sets one. -/
theorem sets_of_settings? (read : settings? s = some pairs) :
    List.Forall₂ Sets (quotedSegments s) pairs := by
  have passes : ∀ segment ∈ quotedSegments s,
      ∃ after, quotes.through false segment = some after := fun segment member =>
    Scan.exists_through_of_mem_pieces
      (fun quoted c cuts => (next_quotes_of_cuts quoted c cuts).2.2) (List.mem_filter.mp member).1
  have both := (List.forall₂_and_left _ _).mpr ⟨passes, mapm_eq_some_iff_forall₂.mp read⟩
  exact both.imp fun segment pair ⟨⟨_, passed⟩, reads⟩ => sets_of_setting? passed reads

/-- Settings are read of segments that are put together. -/
theorem settings?_join_with (nonempty : segments ≠ [])
    (sets :
      List.Forall₂ (fun segment pair => Trimmed segment ∧ Sets segment pair) segments pairs) :
    settings? (joinWith [';'] segments) = some pairs := by
  have each : ∀ segment ∈ segments, Trimmed segment ∧ segment ≠ [] ∧
      quotes.through false segment = some false := by
    intro segment member
    obtain ⟨pair, _, trimmed, sets⟩ := exists_of_forall₂ sets member
    refine ⟨trimmed, ?_, sets.1⟩
    rintro rfl
    cases sets.2
  have trimmed : Trimmed (joinWith [';'] segments) :=
    (trimmed_join_with [';'] fun segment member =>
      ⟨(each segment member).1, (each segment member).2.1⟩).1
  have cut : quotes.pieces false (joinWith [';'] segments) = segments :=
    Scan.pieces_join_with nonempty fun segment member =>
      ⟨false, (each segment member).2.2, rfl, rfl⟩
  have visible : quotedSegments (joinWith [';'] segments) = segments := by
    rw [quotedSegments, trimmed.trim_eq, cut]
    refine List.filter_eq_self.mpr fun segment member => ?_
    rw [Bool.not_eq_true', Bool.eq_false_iff, ne_eq, ← trim_eq_nil_iff,
      (each segment member).1.trim_eq]
    exact (each segment member).2.1
  rw [settings?, visible, mapm_eq_some_iff_forall₂]
  exact sets.imp fun segment pair both => both.2.2

end Forms

section Fragments

variable {key : List Char}

/-- A piece that begins with a key and an equals sign. -/
def Begins (key piece : List Char) : Prop :=
  ∃ front value, piece = front ++ '=' :: value ∧ '=' ∉ front ∧ trim front = key

/-- Such a piece sets the database exactly when the key is one of the database. -/
theorem Begins.sets_database_eq {piece : List Char} (begins : Begins key piece) :
    setsDatabase piece = isDatabaseKey key := by
  obtain ⟨front, value, rfl, equalsFree, rfl⟩ := begins
  simp only [setsDatabase, pair?, cut_at_append equalsFree]
  exact (is_database_key_of_trim_eq (trimmed_trim front).trim_eq).symm

/-- Such a piece counts. -/
theorem Begins.visible {piece : List Char} (begins : Begins key piece) :
    (!piece.all isBlank) = true := by
  obtain ⟨front, value, rfl, _, _⟩ := begins
  have ink : isBlank '=' = false := by decide
  simp [ink]

/-- Trimming leaves the key at its beginning. -/
theorem Begins.trim {piece : List Char} (begins : Begins key piece) :
    Begins key (trim piece) := by
  obtain ⟨front, value, rfl, equalsFree, rfl⟩ := begins
  exact ⟨trimStart front, trimEnd value, trim_append_cons (by decide) front value,
    fun member => equalsFree ((List.dropWhile_sublist isBlank).subset member),
      trim_trim_start front⟩

/-- A segment begins with its key. -/
theorem Sets.begins (sets : Sets segment pair) : Begins pair.1 segment := by
  obtain ⟨front, value, whole, equalsFree, _, trimmed, _⟩ := setting?_eq_some_iff.mp sets.2
  exact ⟨front, value, whole, equalsFree, trimmed⟩

/-- A setting with its value in quotes begins with its key. -/
theorem begins_written (rest : List Char) {front : List Char} (equalsFree : '=' ∉ front)
    (trimmed : trim front = key) : Begins key (key ++ '=' :: rest) := by
  subst trimmed
  exact ⟨_, rest, rfl, fun member => equalsFree ((trim_sublist front).subset member),
    (trimmed_trim front).trim_eq⟩

/-- A setting with its value in quotes has no blanks around it where its key has none. -/
theorem trimmed_written (trimmed : Trimmed pair.1) : Trimmed (written pair) :=
  trimmed.append (trimmed_of_ends (by decide) ('"' :: pair.2) (by decide))

/-- The first piece of a value in quotes is trimmed where it has no blanks at the end. -/
theorem trimmed_opened_iff {front : List Char} (starts : ∀ c ∈ front.head?, isBlank c = false)
    (gap piece : List Char) :
    Trimmed ((front ++ '=' :: gap) ++ '"' :: piece) ↔
      ∀ c ∈ ('"' :: piece).getLast?, isBlank c = false := by
  have last : ((front ++ '=' :: gap) ++ '"' :: piece).getLast? = ('"' :: piece).getLast? :=
    List.getLast?_append_of_ne_nil _ (List.cons_ne_nil _ _)
  constructor
  · intro trimmed
    rw [← last]
    exact trimmed.ends
  · intro ends
    refine ⟨fun c first => ?_, by rwa [last]⟩
    cases front with
    | nil =>
      rw [← Option.some.inj first]
      decide
    | cons d others => exact starts c first

/-- What stands in front of an opening quote stays with the first piece. -/
theorem split_on_opened {lead : List Char} (free : ';' ∉ lead) {content piece : List Char}
    {rest : List (List Char)} (splits : splitOn ';' content = piece :: rest) :
    splitOn ';' (lead ++ '"' :: content) = (lead ++ '"' :: piece) :: rest := by
  have openedFree : ';' ∉ lead ++ ['"'] := by simp [free]
  rw [List.append_cons, Scan.split_on_append_of_not_mem openedFree, splits, List.modifyHead_cons,
    ← List.append_cons]

/-- A trimmed setting comes apart as it does with the value in quotes, up to the key. -/
theorem Form.exists_fragments (form : Form pair s) (trimmed : Trimmed s) :
    ∃ first own rest, splitOn ';' s = first :: rest ∧
      splitOn ';' (written pair) = own :: rest ∧
      Begins pair.1 first ∧ Begins pair.1 own ∧ (Trimmed first ↔ Trimmed own) := by
  cases form with
  | @bare front value starts equalsFree trimmedFront quoteless semicolonless held =>
    have keyFree : ';' ∉ pair.1 := fun member => semicolonless
      (List.mem_append_left _ ((trim_sublist front).subset (trimmedFront ▸ member)))
    have contentFree : ';' ∉ pair.2 := fun member => semicolonless
      (List.mem_append_right _
        (List.mem_cons_of_mem _ ((trim_sublist value).subset (held ▸ member))))
    have free : ';' ∉ written pair := by simp [written, keyFree, contentFree]
    have whole : Trimmed (written pair) := trimmed_written (trimmedFront ▸ trimmed_trim front)
    exact ⟨_, _, [], split_on_of_not_mem semicolonless, split_on_of_not_mem free,
      ⟨front, value, rfl, equalsFree, trimmedFront⟩, begins_written _ equalsFree trimmedFront,
      iff_of_true trimmed whole⟩
  | @enclosed front gap starts equalsFree trimmedFront quoteless semicolonless blank _ =>
    obtain ⟨piece, rest, splits⟩ :=
      List.exists_cons_of_ne_nil (split_on_ne_nil ';' (pair.2 ++ ['"']))
    have gapFree : ';' ∉ gap := fun member =>
      absurd (List.all_eq_true.mp blank _ member) (by decide)
    have keyFree : ';' ∉ pair.1 := fun member => semicolonless
      ((trim_sublist front).subset (trimmedFront ▸ member))
    have leadFree : ';' ∉ front ++ '=' :: gap := by simp [semicolonless, gapFree]
    have ownFree : ';' ∉ pair.1 ++ ['='] := by simp [keyFree]
    have keyStarts : ∀ c ∈ pair.1.head?, isBlank c = false :=
      trimmedFront ▸ (trimmed_trim front).starts
    have alike := (trimmed_opened_iff starts gap piece).trans
      (trimmed_opened_iff keyStarts [] piece).symm
    refine ⟨(front ++ '=' :: gap) ++ '"' :: piece, (pair.1 ++ ['=']) ++ '"' :: piece, rest,
      ?_, ?_, ?_, ?_, alike⟩
    · rw [← split_on_opened leadFree splits, List.append_assoc, List.cons_append]
    · rw [← split_on_opened ownFree splits, ← List.append_cons]
      rfl
    · exact ⟨front, gap ++ '"' :: piece, by simp, equalsFree, trimmedFront⟩
    · rw [← List.append_cons]
      exact begins_written _ equalsFree trimmedFront

end Fragments

section Counting

/-- Segments count that are not empty once they are trimmed. -/
theorem counted_segments_eq_filter (s : List Char) :
    countedSegments s = ((splitOn ';' s).map trim).filter fun piece => !piece.isEmpty := by
  rw [countedSegments, List.filter_map]
  refine congrArg (List.map trim) (List.filter_congr fun piece _ => congrArg not ?_)
  rw [Bool.eq_iff_iff, List.isEmpty_iff, trim_eq_nil_iff]

/-- Blanks around a text make no difference to the segments that count. -/
theorem counted_segments_trim (s : List Char) : countedSegments (trim s) = countedSegments s := by
  rw [counted_segments_eq_filter, counted_segments_eq_filter,
    Scan.map_trim_split_on_trim (by decide)]

/-- Segments that count have no blanks around them, and something in them. -/
theorem trimmed_of_mem_counted_segments {piece : List Char} (member : piece ∈ countedSegments s) :
    Trimmed piece ∧ piece ≠ [] := by
  rw [counted_segments_eq_filter, List.mem_filter] at member
  obtain ⟨listed, some⟩ := member
  obtain ⟨segment, _, rfl⟩ := List.mem_map.mp listed
  exact ⟨trimmed_trim segment, by simpa using some⟩

/-- Trimming changes no segment that counts. -/
theorem map_trim_counted_segments (s : List Char) :
    (countedSegments s).map trim = countedSegments s :=
  (List.map_congr_left fun _ member => (trimmed_of_mem_counted_segments member).1.trim_eq).trans
    (List.map_id _)

/-- All segments count as they are where none has blanks around it or is empty. -/
theorem counted_segments_eq_split_on_iff : countedSegments s = splitOn ';' s ↔
    ∀ piece ∈ splitOn ';' s, Trimmed piece ∧ piece ≠ [] := by
  constructor
  · intro same piece member
    exact trimmed_of_mem_counted_segments (same ▸ member)
  · intro all
    have trimmed : (splitOn ';' s).map trim = splitOn ';' s :=
      (List.map_congr_left fun piece member => (all piece member).1.trim_eq).trans (List.map_id _)
    rw [counted_segments_eq_filter, trimmed]
    exact List.filter_eq_self.mpr fun piece member => by simpa using (all piece member).2

/-- The segments that count are those of the segments between semicolons outside quotes. -/
theorem counted_segments_eq_flat_map (s : List Char) :
    countedSegments s = (quotedSegments s).flatMap countedSegments := by
  have blank {segment : List Char} (blank : segment.all isBlank = true) :
      countedSegments segment = [] := by
    rw [← counted_segments_trim, (trim_eq_nil_iff segment).mpr blank]
    rfl
  have all (segments : List (List Char)) :
      (segments.filter fun segment => !segment.all isBlank).flatMap countedSegments =
        segments.flatMap countedSegments := by
    induction segments with
    | nil => rfl
    | cons segment rest inductionHypothesis =>
      rw [List.flatMap_cons, List.filter_cons]
      split
      · rw [List.flatMap_cons, inductionHypothesis]
      · rename_i unseen
        rw [inductionHypothesis, blank (by simpa using unseen), List.nil_append]
  rw [quotedSegments, all, ← counted_segments_trim, countedSegments,
    split_on_eq_flat_map_quotes, List.filter_flatMap, List.map_flatMap]
  rfl

/-- A first segment that counts. -/
theorem counted_segments_of_split_on {first : List Char} {rest : List (List Char)}
    (splits : splitOn ';' s = first :: rest) (visible : (!first.all isBlank) = true) :
    countedSegments s =
      trim first :: (rest.filter fun segment => !segment.all isBlank).map trim := by
  rw [countedSegments, splits,
    List.filter_cons_of_pos (p := fun segment : List Char => !segment.all isBlank) visible,
    List.map_cons]

/-- The pieces of a segment that count are those of its setting with the value in quotes, up to the
key. -/
theorem Sets.exists_counted (sets : Sets segment pair) :
    ∃ first own rest, countedSegments segment = first :: rest ∧
      countedSegments (written pair) = own :: rest ∧ Begins pair.1 first ∧
        Begins pair.1 own := by
  obtain ⟨first, own, rest, splits, splitsOwn, begins, beginsOwn, _⟩ :=
    (form_of_setting? sets.1 sets.2).exists_fragments (trimmed_trim segment)
  refine ⟨_, _, _, ?_, counted_segments_of_split_on splitsOwn beginsOwn.visible, begins.trim,
    beginsOwn.trim⟩
  rw [← counted_segments_trim, counted_segments_of_split_on splits begins.visible]

/-- Nothing is trimmed away from the pieces of a segment exactly when nothing is trimmed away from
those of its setting with the value in quotes. -/
theorem Sets.untouched_iff (sets : Sets segment pair) :
    countedSegments segment = splitOn ';' (Text.trim segment) ↔
      countedSegments (written pair) = splitOn ';' (written pair) := by
  obtain ⟨first, own, rest, splits, splitsOwn, begins, beginsOwn, alike⟩ :=
    (form_of_setting? sets.1 sets.2).exists_fragments (trimmed_trim segment)
  have nonempty {piece : List Char} (begins : Begins pair.1 piece) : piece ≠ [] := by
    obtain ⟨front, value, rfl, _⟩ := begins
    simp
  rw [← counted_segments_trim, counted_segments_eq_split_on_iff, counted_segments_eq_split_on_iff,
    splits, splitsOwn, List.forall_mem_cons, List.forall_mem_cons, alike]
  exact and_congr_left fun _ => and_congr_right fun _ =>
    iff_of_true (nonempty begins) (nonempty beginsOwn)

end Counting

end SqlAccess.Settings
