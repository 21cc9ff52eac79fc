import SqlAccess.Proofs.ConnectionString.QuotedSettings
import SqlAccess.Proofs.ConnectionString.Rewriting

/-!
# Another database beside values in quotes

Setting the database cuts at every semicolon, so a value in quotes comes apart; its pieces are
trimmed, blank ones are left out, and one that looks like a setting of the database is taken for it.
Main statement: as a driver reads them, the other settings stay as they were exactly when none of
this happens, in particular when no value holds a semicolon.
-/

namespace SqlAccess

open Text Lexical

namespace Settings

variable {s segment name : List Char} {pair : List Char × List Char}
  {segments : List (List Char)} {pairs : List (List Char × List Char)}

/-- The settings with another database: the first that sets it sets the name, later ones are
dropped; where there is none, one is added. -/
def switched (name : List Char) :
    List (List Char × List Char) → List (List Char × List Char)
  | [] => [("Database".toList, name)]
  | pair :: rest =>
    if isDatabaseKey pair.1 then
      (pair.1, name) :: rest.filter fun later => !isDatabaseKey later.1
    else pair :: switched name rest

/-- Settings that come apart as they should: those of the database into segments that set the
database, and all others into segments that do not and from which nothing is trimmed away. -/
def Respected (pair : List Char × List Char) : Prop :=
  if isDatabaseKey pair.1 then
    ∀ piece ∈ countedSegments (written pair), setsDatabase piece = true
  else countedSegments (written pair) = splitOn ';' (written pair) ∧
    ∀ piece ∈ countedSegments (written pair), setsDatabase piece = false

instance (pair : List Char × List Char) : Decidable (Respected pair) :=
  inferInstanceAs (Decidable (if isDatabaseKey pair.1 then
    ∀ piece ∈ countedSegments (written pair), setsDatabase piece = true
  else countedSegments (written pair) = splitOn ';' (written pair) ∧
    ∀ piece ∈ countedSegments (written pair), setsDatabase piece = false))

section Marks

/-- What the pieces of a setting set that count: the database, or something else. -/
def marks (pair : List Char × List Char) : List Bool :=
  (countedSegments (written pair)).map setsDatabase

/-- The pieces of a segment set what those of its setting with the value in quotes set. -/
theorem Sets.map_sets_database (sets : Sets segment pair) :
    (countedSegments segment).map setsDatabase = marks pair := by
  obtain ⟨first, own, rest, counted, countedOwn, begins, beginsOwn⟩ := sets.exists_counted
  rw [marks, counted, countedOwn, List.map_cons, List.map_cons, begins.sets_database_eq,
    beginsOwn.sets_database_eq]

/-- A key of the database is spelt with letters of its names, small or capital, and blanks. -/
theorem not_mem_of_is_database_key {key : List Char} (names : isDatabaseKey key = true) {c : Char}
    (ink : isBlank c = false) (other : c.toLower ∉ "database initial catalog".toList) :
    c ∉ key := by
  intro member
  have inside : c.toLower ∈ lowerAscii (trim key) :=
    List.mem_map_of_mem ((mem_trim_iff ink).mpr member)
  simp only [isDatabaseKey, isKeyAmong, List.any_cons, List.any_nil, Bool.or_false, Bool.or_eq_true,
    beq_iff_eq] at names
  refine other ?_
  rcases names with same | same <;> rw [same] at inside
  · exact (by decide : "database".toList ⊆ "database initial catalog".toList) inside
  · exact (by decide : "initial catalog".toList ⊆ "database initial catalog".toList) inside

/-- A setting of the database to a name without semicolons is one piece. -/
theorem marks_own {key : List Char} (names : isDatabaseKey key = true) (free : ';' ∉ name) :
    marks (key, name) = [true] := by
  have semicolonless : ';' ∉ key := not_mem_of_is_database_key names (by decide) (by decide)
  have equalsFree : '=' ∉ key := not_mem_of_is_database_key names (by decide) (by decide)
  have whole : ';' ∉ written (key, name) := by simp [written, semicolonless, free]
  have begins : Begins (trim key) (written (key, name)) := ⟨key, _, rfl, equalsFree, rfl⟩
  have sets : isDatabaseKey (trim key) = true :=
    (is_database_key_of_trim_eq (trimmed_trim key).trim_eq).trans names
  rw [marks, counted_segments_of_split_on (split_on_of_not_mem whole) begins.visible, List.map_cons,
    begins.trim.sets_database_eq, sets]
  rfl

/-- A setting of the database to a name sets it. -/
theorem sets_database_setting {key : List Char} (names : isDatabaseKey key = true)
    (name : List Char) : setsDatabase (trim key ++ '=' :: name) = true := by
  have equalsFree : '=' ∉ key := not_mem_of_is_database_key names (by decide) (by decide)
  rw [Begins.sets_database_eq (begins_written name equalsFree rfl)]
  exact (is_database_key_of_trim_eq (trimmed_trim key).trim_eq).trans names

/-- What is written sets the database once, and all else that was set. -/
theorem replace_database_perm (name : List Char) (segments : List (List Char)) :
    ((replaceDatabase name segments).map setsDatabase).Perm
      (true :: (segments.map setsDatabase).filter fun own => !own) := by
  induction segments with
  | nil =>
    have sets : setsDatabase (trim "Database".toList ++ '=' :: name) = true :=
      sets_database_setting (by decide) name
    exact .of_eq (congrArg (fun own => [own]) sets)
  | cons segment rest inductionHypothesis =>
    rw [List.map_cons]
    cases sets : setsDatabase segment with
    | false =>
      rw [replace_database_of_other sets, List.map_cons, sets_database_trim, sets]
      exact (inductionHypothesis.cons false).trans (.swap _ _ _)
    | true =>
      obtain ⟨key, value, cut, names⟩ := sets_database_iff.mp sets
      have kept : ((rest.filter fun later => !setsDatabase later).map trim).map setsDatabase =
          (rest.map setsDatabase).filter fun own => !own := by
        rw [List.map_map, List.filter_map]
        exact List.map_congr_left fun later _ => sets_database_trim later
      rw [replace_database_of_sets cut names, List.map_cons, sets_database_setting names,
        kept, List.filter_cons_of_neg (by decide)]

/-- The settings with another database set it once, and all else that is set. -/
theorem switched_perm (free : ';' ∉ name) (pairs : List (List Char × List Char)) :
    ((switched name pairs).flatMap marks).Perm
      (true :: (pairs.filter fun pair => !isDatabaseKey pair.1).flatMap marks) := by
  induction pairs with
  | nil =>
    rw [switched, List.flatMap_cons, marks_own (by decide) free]
    exact .refl _
  | cons pair rest inductionHypothesis =>
    rw [switched]
    split
    · rename_i names
      rw [List.flatMap_cons, marks_own names free, List.filter_cons_of_neg (by simp [names])]
      exact .refl _
    · rename_i other
      rw [List.flatMap_cons, List.filter_cons_of_pos (by simp [other]), List.flatMap_cons]
      exact (inductionHypothesis.append_left (marks pair)).trans List.perm_middle

/-- The pieces of a string that count, and those of its settings. -/
theorem map_sets_database_of_settings? (read : settings? s = some pairs) :
    (countedSegments s).map setsDatabase = pairs.flatMap marks := by
  rw [counted_segments_eq_flat_map, List.map_flatMap]
  have sets := sets_of_settings? read
  clear read
  generalize quotedSegments s = segments at sets ⊢
  induction sets with
  | nil => rfl
  | cons first _ inductionHypothesis =>
    rw [List.flatMap_cons, List.flatMap_cons, first.map_sets_database, inductionHypothesis]

end Marks

section Switching

/-- What a piece of a segment sets is what a piece of its setting with the value in quotes sets. -/
theorem Sets.exists_alike (sets : Sets segment pair) {piece : List Char}
    (member : piece ∈ countedSegments segment) :
    ∃ own ∈ countedSegments (written pair), setsDatabase own = setsDatabase piece := by
  have mark : setsDatabase piece ∈ marks pair := by
    rw [← sets.map_sets_database]
    exact List.mem_map_of_mem member
  exact List.mem_map.mp mark

/-- A setting of something else that is respected is rewritten as one. -/
theorem Sets.joined (sets : Sets segment pair) (other : isDatabaseKey pair.1 = false)
    (respected : Respected pair) :
    joinWith [';'] (countedSegments segment) = Text.trim segment ∧
      ∀ piece ∈ countedSegments segment, setsDatabase piece = false := by
  rw [Respected, if_neg (by simp [other])] at respected
  obtain ⟨untouched, others⟩ := respected
  refine ⟨?_, fun piece member => ?_⟩
  · rw [sets.untouched_iff.mpr untouched, join_with_split_on]
  · obtain ⟨own, listed, same⟩ := sets.exists_alike member
    rw [← same, others own listed]

/-- A setting of the database that is respected is rewritten as one. -/
theorem Sets.own (sets : Sets segment pair) (names : isDatabaseKey pair.1 = true)
    (respected : Respected pair) :
    ∃ first rest, countedSegments segment = first :: rest ∧ Begins pair.1 first ∧
      ∀ piece ∈ countedSegments segment, setsDatabase piece = true := by
  rw [Respected, if_pos names] at respected
  obtain ⟨first, _, rest, counted, _, begins, _⟩ := sets.exists_counted
  refine ⟨first, rest, counted, begins, fun piece member => ?_⟩
  obtain ⟨own, listed, same⟩ := sets.exists_alike member
  rw [← same, respected own listed]

/-- Pieces with a semicolon in front of each. -/
def led (pieces : List (List Char)) : List Char := pieces.flatMap (';' :: ·)

/-- The first piece stands in front, behind its semicolon. -/
theorem led_cons (piece : List Char) (pieces : List (List Char)) :
    led (piece :: pieces) = (';' :: piece) ++ led pieces := rfl

/-- Pieces and others are led one behind the other. -/
theorem led_append (pieces others : List (List Char)) :
    led (pieces ++ others) = led pieces ++ led others := List.flatMap_append

/-- Pieces that are led are joined, with one semicolon more in front. -/
theorem led_eq_cons {pieces : List (List Char)} (nonempty : pieces ≠ []) :
    led pieces = ';' :: joinWith [';'] pieces := by
  obtain ⟨piece, rest, rfl⟩ := List.exists_cons_of_ne_nil nonempty
  rfl

/-- A setting of something else that is respected, with a semicolon in front. -/
theorem Sets.led_counted (sets : Sets segment pair) (other : isDatabaseKey pair.1 = false)
    (respected : Respected pair) : led (countedSegments segment) = ';' :: Text.trim segment := by
  obtain ⟨first, _, rest, counted, _⟩ := sets.exists_counted
  have nonempty : countedSegments segment ≠ [] := counted ▸ List.cons_ne_nil first rest
  rw [led_eq_cons nonempty, (sets.joined other respected).1]

/-- Behind a setting of the database the settings of something else are left. -/
theorem led_filter (sets : List.Forall₂ Sets segments pairs)
    (respected : ∀ pair ∈ pairs, Respected pair) :
    led (((segments.flatMap countedSegments).filter fun later => !setsDatabase later).map trim) =
      led ((segments.filter fun later => !setsDatabase later).map trim) := by
  induction sets with
  | nil => rfl
  | @cons segment pair segments pairs first _ inductionHypothesis =>
    obtain ⟨own, others⟩ := List.forall_mem_cons.mp respected
    rw [List.flatMap_cons, List.filter_append, List.map_append, led_append,
      inductionHypothesis others]
    have mark := first.begins.sets_database_eq
    cases names : isDatabaseKey pair.1 with
    | true =>
      obtain ⟨_, _, _, _, all⟩ := first.own names own
      have none : (countedSegments segment).filter (fun later => !setsDatabase later) = [] :=
        List.filter_eq_nil_iff.mpr fun piece member => by simp [all piece member]
      rw [none, List.filter_cons_of_neg (by simp [mark, names])]
      rfl
    | false =>
      have all : (countedSegments segment).filter (fun later => !setsDatabase later) =
          countedSegments segment :=
        List.filter_eq_self.mpr fun piece member => by
          simp [(first.joined names own).2 piece member]
      rw [all, map_trim_counted_segments, first.led_counted names own,
        List.filter_cons_of_pos (by simp [mark, names]), List.map_cons, led_cons]

/-- Pieces that do not set the database stay in front. -/
theorem replace_database_append {front : List (List Char)}
    (others : ∀ piece ∈ front, setsDatabase piece = false) (name : List Char)
    (rest : List (List Char)) :
    replaceDatabase name (front ++ rest) = front.map trim ++ replaceDatabase name rest := by
  induction front with
  | nil => rfl
  | cons piece more inductionHypothesis =>
    obtain ⟨first, later⟩ := List.forall_mem_cons.mp others
    rw [List.cons_append, replace_database_of_other first, inductionHypothesis later]
    rfl

/-- The first setting of the database. -/
theorem replace_database_of_begins {key piece : List Char} (begins : Begins key piece)
    (names : isDatabaseKey key = true) (name : List Char) (rest : List (List Char)) :
    replaceDatabase name (piece :: rest) =
      (key ++ '=' :: name) :: (rest.filter fun later => !setsDatabase later).map trim := by
  obtain ⟨front, value, rfl, equalsFree, rfl⟩ := begins
  rw [is_database_key_of_trim_eq (trimmed_trim front).trim_eq] at names
  exact replace_database_of_sets (cut_at_append equalsFree value) names name rest

/-- Where all settings are respected, each segment is rewritten as one. -/
theorem led_replace_database (sets : List.Forall₂ Sets segments pairs)
    (respected : ∀ pair ∈ pairs, Respected pair) (name : List Char) :
    led (replaceDatabase name (segments.flatMap countedSegments)) =
      led (replaceDatabase name segments) := by
  induction sets with
  | nil => rfl
  | @cons segment pair segments pairs first later inductionHypothesis =>
    obtain ⟨own, others⟩ := List.forall_mem_cons.mp respected
    rw [List.flatMap_cons]
    cases names : isDatabaseKey pair.1 with
    | true =>
      obtain ⟨piece, rest, counted, begins, all⟩ := first.own names own
      rw [counted] at all
      have none : rest.filter (fun later => !setsDatabase later) = [] :=
        List.filter_eq_nil_iff.mpr fun piece member => by
          simp [all piece (List.mem_cons_of_mem _ member)]
      rw [counted, List.cons_append, replace_database_of_begins begins names,
        replace_database_of_begins first.begins names, List.filter_append, none, List.nil_append,
        led_cons, led_cons, led_filter later others]
    | false =>
      have other : setsDatabase segment = false := first.begins.sets_database_eq.trans names
      rw [replace_database_append (first.joined names own).2, led_append, map_trim_counted_segments,
        first.led_counted names own, replace_database_of_other other, led_cons,
        inductionHypothesis others]

/-- Blanks around the segments make no difference to what is written. -/
theorem replace_database_map_trim (name : List Char) (segments : List (List Char)) :
    replaceDatabase name (segments.map trim) = replaceDatabase name segments := by
  induction segments with
  | nil => rfl
  | cons segment rest inductionHypothesis =>
    cases sets : setsDatabase segment with
    | false =>
      rw [List.map_cons, replace_database_of_other sets,
        replace_database_of_other ((sets_database_trim segment).trans sets), inductionHypothesis,
        (trimmed_trim segment).trim_eq]
    | true =>
      obtain ⟨key, value, cut, names⟩ := sets_database_iff.mp sets
      obtain ⟨whole, equalsFree⟩ := cut_at_eq_some_iff.mp cut
      have begins : Begins (trim key) segment := ⟨key, value, whole, equalsFree, rfl⟩
      have namesStill := (is_database_key_of_trim_eq (trimmed_trim key).trim_eq).trans names
      rw [List.map_cons, replace_database_of_begins begins.trim namesStill,
        replace_database_of_begins begins namesStill, filter_map_trim, List.map_map]
      congr 1
      exact List.map_congr_left fun later _ => (trimmed_trim later).trim_eq

/-- Where all settings are respected, what is written are the segments with the database set. -/
theorem with_database_of_respected (read : settings? s = some pairs)
    (respected : ∀ pair ∈ pairs, Respected pair) (name : List Char) :
    withDatabase s name = joinWith [';'] (replaceDatabase name (quotedSegments s)) := by
  have nonempty := replace_database_ne_nil name
  have written : withDatabase s name =
      joinWith [';'] (replaceDatabase name (countedSegments s)) := by
    rw [countedSegments, replace_database_map_trim]
    rfl
  have whole := led_replace_database (sets_of_settings? read) respected name
  rw [← counted_segments_eq_flat_map, led_eq_cons (nonempty _), led_eq_cons (nonempty _)] at whole
  rw [written, (List.cons.inj whole).2]

/-- A setting of the database to a name is read as one. -/
theorem sets_setting {key : List Char} (trimmed : Trimmed key) (names : isDatabaseKey key = true)
    (valid : DatabaseName.isValid name = true) :
    Trimmed (key ++ '=' :: name) ∧ Sets (key ++ '=' :: name) (key, name) := by
  have free {c : Char} (ink : isBlank c = false)
      (other : c.toLower ∉ "database initial catalog".toList) : c ∉ key :=
    not_mem_of_is_database_key names ink other
  have nameFree {c : Char} (outside : DatabaseName.continuesName c = false) : c ∉ name :=
    DatabaseName.not_mem_of_is_valid valid outside
  have quoteless : '"' ∉ key := free (by decide) (by decide)
  have semicolonless : ';' ∉ key := free (by decide) (by decide)
  have equalsFree : '=' ∉ key := free (by decide) (by decide)
  have nameQuoteless : '"' ∉ name := nameFree (by decide)
  have nameSemicolonless : ';' ∉ name := nameFree (by decide)
  have nameTrimmed := (DatabaseName.trimmed_of_is_valid valid).trim_eq
  refine ⟨trimmed.append (trimmed_of_forall ?_), ?_, ?_⟩
  · exact List.forall_mem_cons.mpr ⟨by decide, DatabaseName.is_blank_of_mem valid⟩
  · exact through_quotes_of_plain (by simp [quoteless, nameQuoteless])
      (by simp [semicolonless, nameSemicolonless]) false
  · refine setting?_eq_some_iff.mpr
      ⟨key, name, rfl, equalsFree, quoteless, trimmed.trim_eq, ?_⟩
    rw [nameTrimmed]
    exact content?_eq_some_iff.mpr ⟨nameQuoteless, Or.inl rfl⟩

/-- A setting among those of something else is one that is trimmed. -/
theorem sets_filter (sets : List.Forall₂ Sets segments pairs) :
    List.Forall₂ (fun segment pair => Trimmed segment ∧ Sets segment pair)
      ((segments.filter fun later => !setsDatabase later).map trim)
      (pairs.filter fun later => !isDatabaseKey later.1) := by
  induction sets with
  | nil => exact .nil
  | @cons segment pair segments pairs first _ inductionHypothesis =>
    have mark := first.begins.sets_database_eq
    cases names : isDatabaseKey pair.1 with
    | true =>
      rw [List.filter_cons_of_neg (by simp [mark, names]),
        List.filter_cons_of_neg (by simp [names])]
      exact inductionHypothesis
    | false =>
      rw [List.filter_cons_of_pos (by simp [mark, names]),
        List.filter_cons_of_pos (by simp [names])]
      exact .cons ⟨trimmed_trim segment, first.trim⟩ inductionHypothesis

/-- The segments with the database set are the settings with the database set. -/
theorem sets_replace_database (valid : DatabaseName.isValid name = true)
    (sets : List.Forall₂ Sets segments pairs) :
    List.Forall₂ (fun segment pair => Trimmed segment ∧ Sets segment pair)
      (replaceDatabase name segments) (switched name pairs) := by
  induction sets with
  | nil =>
    have word : Trimmed "Database".toList := trimmed_of_forall (forall_mem_of_all (by decide))
    exact .cons (sets_setting word (by decide) valid) .nil
  | @cons segment pair segments pairs first later inductionHypothesis =>
    rw [switched]
    split
    · rename_i names
      obtain ⟨front, _, _, _, trimmed⟩ := first.begins
      have key : Trimmed pair.1 := trimmed ▸ trimmed_trim front
      rw [replace_database_of_begins first.begins names]
      exact .cons (sets_setting key names valid) (sets_filter later)
    · rename_i other
      have others : setsDatabase segment = false := by
        rw [first.begins.sets_database_eq]
        exact Bool.eq_false_iff.mpr other
      rw [replace_database_of_other others]
      exact .cons ⟨trimmed_trim segment, first.trim⟩ inductionHypothesis

/-- Where all settings are respected, they are read with the database set. -/
theorem settings?_of_respected (valid : DatabaseName.isValid name = true)
    (read : settings? s = some pairs) (respected : ∀ pair ∈ pairs, Respected pair) :
    settings? (withDatabase s name) = some (switched name pairs) := by
  rw [with_database_of_respected read respected]
  exact settings?_join_with (replace_database_ne_nil name _)
    (sets_replace_database valid (sets_of_settings? read))

/-- A setting of something else is there after the database is set. -/
theorem mem_switched (member : pair ∈ pairs) (other : isDatabaseKey pair.1 = false) :
    pair ∈ switched name pairs := by
  induction pairs with
  | nil => cases member
  | cons first rest inductionHypothesis =>
    rw [switched]
    split
    · rename_i names
      rcases List.mem_cons.mp member with rfl | later
      · rw [other] at names
        cases names
      · exact List.mem_cons_of_mem _ (List.mem_filter.mpr ⟨later, by simp [other]⟩)
    · rcases List.mem_cons.mp member with rfl | later
      · exact List.mem_cons_self
      · exact List.mem_cons_of_mem _ (inductionHypothesis later)

/-- A setting that is read of a string whose segments all count as they are is one whose pieces all
count as they are. -/
theorem untouched_of_mem (counted : countedSegments s = splitOn ';' s) (trimmed : Trimmed s)
    (read : settings? s = some pairs) (member : pair ∈ pairs) :
    countedSegments (written pair) = splitOn ';' (written pair) := by
  obtain ⟨segment, listed, (sets : Sets segment pair)⟩ :=
    exists_of_forall₂ (sets_of_settings? read).flip member
  have all := counted_segments_eq_split_on_iff.mp counted
  have inside : ∀ piece ∈ splitOn ';' segment, Trimmed piece ∧ piece ≠ [] := by
    intro piece member
    refine all piece ?_
    rw [← trimmed.trim_eq, split_on_eq_flat_map_quotes]
    exact List.mem_flatMap.mpr ⟨segment, (List.mem_filter.mp listed).1, member⟩
  have whole : Text.trim segment = segment := by
    have joined := (trimmed_join_with [';'] inside).1
    rw [join_with_split_on] at joined
    exact joined.trim_eq
  refine sets.untouched_iff.mp ?_
  rw [whole]
  exact counted_segments_eq_split_on_iff.mpr inside

/-- All that is written counts as it is. -/
theorem counted_segments_with_database (s : List Char) (valid : DatabaseName.isValid name = true) :
    countedSegments (withDatabase s name) = splitOn ';' (withDatabase s name) :=
  counted_segments_eq_split_on_iff.mpr fun _ member =>
    (mem_rewritten s valid (rewritten_with_database s valid) member).2

/-- Where the settings are read with the database set, what the other ones set is all that does not
set the database. -/
theorem marks_perm (valid : DatabaseName.isValid name = true) (read : settings? s = some pairs)
    (again : settings? (withDatabase s name) = some (switched name pairs)) :
    ((pairs.filter fun pair => !isDatabaseKey pair.1).flatMap marks).Perm
      ((pairs.flatMap marks).filter fun own => !own) := by
  have counted : countedSegments (withDatabase s name) =
      replaceDatabase name (countedSegments s) := by
    rw [counted_segments_with_database s valid, split_on_with_database s valid,
      ← replace_database_map_trim]
    rfl
  have rewritten := replace_database_perm name (countedSegments s)
  rw [← counted, map_sets_database_of_settings? again, map_sets_database_of_settings? read]
    at rewritten
  have free : ';' ∉ name := DatabaseName.not_mem_of_is_valid valid (by decide)
  exact ((switched_perm free pairs).symm.trans rewritten).cons_inv

/-- Where the settings are read with the database set, all were respected. -/
theorem respected_of_settings? (valid : DatabaseName.isValid name = true)
    (read : settings? s = some pairs)
    (again : settings? (withDatabase s name) = some (switched name pairs)) :
    ∀ pair ∈ pairs, Respected pair := by
  have counted := counted_segments_with_database s valid
  have alike := marks_perm valid read again
  have otherMarks : ∀ mark ∈ (pairs.filter fun pair => !isDatabaseKey pair.1).flatMap marks,
      mark = false := fun mark member => by
    simpa using (List.mem_filter.mp (alike.subset member)).2
  have ownMarks : false ∉ (pairs.filter fun pair => isDatabaseKey pair.1).flatMap marks := by
    -- what does not set the database is counted: the other settings hold all of it
    have all := ((List.filter_append_perm (fun pair => isDatabaseKey pair.1) pairs).flatMap_right
      marks).count_eq false
    have kept := alike.count_eq false
    rw [List.flatMap_append, List.count_append] at all
    rw [List.count_filter rfl] at kept
    rw [← List.count_eq_zero]
    omega
  intro pair member
  have mark {piece : List Char} (inside : piece ∈ countedSegments (written pair)) :
      setsDatabase piece ∈ marks pair := List.mem_map_of_mem inside
  unfold Respected
  split
  · rename_i names
    intro piece inside
    refine Bool.of_not_eq_false fun stray => ownMarks ?_
    exact List.mem_flatMap.mpr
      ⟨pair, List.mem_filter.mpr ⟨member, names⟩, stray ▸ mark inside⟩
  · rename_i other
    rw [Bool.not_eq_true] at other
    refine ⟨untouched_of_mem counted (trimmed_with_database s valid) again
      (mem_switched member other), fun piece inside => otherMarks _ ?_⟩
    exact List.mem_flatMap.mpr
      ⟨pair, List.mem_filter.mpr ⟨member, by simp [other]⟩, mark inside⟩

/-- Settings without semicolons in their values are respected. -/
theorem Sets.respected (sets : Sets segment pair) (free : ';' ∉ pair.2) : Respected pair := by
  obtain ⟨key, content⟩ := pair
  obtain ⟨front, value, rfl, equalsFree, quoteless, rfl, _⟩ := setting?_eq_some_iff.mp sets.2
  have keyFree : ';' ∉ Text.trim front := fun member =>
    not_mem_of_through quoteless _ sets.1 ((trim_sublist front).subset member)
  have whole : ';' ∉ written (Text.trim front, content) := by
    simpa [written, keyFree] using free
  have begins : Begins (Text.trim front) (written (Text.trim front, content)) :=
    begins_written _ equalsFree rfl
  have trimmed : Trimmed (written (Text.trim front, content)) :=
    trimmed_written (trimmed_trim front)
  have splits := split_on_of_not_mem whole
  have counted : countedSegments (written (Text.trim front, content)) =
      [written (Text.trim front, content)] := by
    rw [counted_segments_of_split_on splits begins.visible, trimmed.trim_eq]
    rfl
  unfold Respected
  rw [counted, splits]
  split
  · rename_i names
    exact List.forall_mem_singleton.mpr (begins.sets_database_eq.trans names)
  · rename_i other
    exact ⟨rfl, List.forall_mem_singleton.mpr
      (begins.sets_database_eq.trans (Bool.eq_false_iff.mpr other))⟩

end Switching

end Settings

namespace ConnectionString

/-- Setting the database leaves the other settings as a driver reads them exactly when each of them
comes apart as it should; so it does when no value holds a semicolon.

Proof: the database setting is written over the segments that are counted, so the settings that a
driver reads afterwards are known where every setting is respected. For the other direction the
segments that set the database and those that do not are counted before and behind the change; a
setting that came apart in another way would change one of the two counts. -/
theorem with_database_quoted_values (dialect : Dialect) (connectionString name : String)
    (pairs : List (List Char × List Char)) (server : dialect ≠ .sqlite)
    (settings : isUrl (trim connectionString.toList) = false)
    (read : Settings.settings? connectionString.toList = some pairs) (present : pairs ≠ [])
    (valid : DatabaseName.isValid name.toList = true) :
    ∃ written, withDatabase dialect connectionString name = .ok written ∧
      (Settings.settings? written.toList = some (Settings.switched name.toList pairs) ↔
        ∀ pair ∈ pairs, Settings.Respected pair) ∧
      ((∀ pair ∈ pairs, ';' ∉ pair.2) →
        Settings.settings? written.toList = some (Settings.switched name.toList pairs)) := by
  have visible : trim connectionString.toList ≠ [] := by
    intro empty
    rw [Settings.settings?, Settings.quotedSegments, empty] at read
    exact present (Option.some.inj read).symm
  have trimmed : Settings.settings? (trim connectionString.toList) = some pairs := by
    rw [← read, Settings.settings?, Settings.quotedSegments, (trimmed_trim _).trim_eq]
    rfl
  have respects : Settings.settings? (Settings.withDatabase (trim connectionString.toList)
      name.toList) = some (Settings.switched name.toList pairs) ↔
        ∀ pair ∈ pairs, Settings.Respected pair :=
    ⟨Settings.respected_of_settings? valid trimmed,
      Settings.settings?_of_respected valid trimmed⟩
  refine ⟨String.ofList (Settings.withDatabase (trim connectionString.toList) name.toList),
    ?_, ?_, ?_⟩
  · rw [with_database_settings server visible settings,
      DatabaseName.validate_eq_ok_iff.mpr valid]
    rfl
  · rwa [String.toList_ofList]
  · intro free
    rw [String.toList_ofList, respects]
    intro pair member
    obtain ⟨segment, _, (sets : Settings.Sets segment pair)⟩ :=
      Settings.exists_of_forall₂ (Settings.sets_of_settings? read).flip member
    exact sets.respected (free pair member)

/-- Values with semicolons and equals signs in quotes, and the database set twice. -/
theorem with_database_quoted_values_crowded :
    let settings := " Server = \"h;i\" ;; Initial Catalog=\"old\";Password = \"a;b=c d\" ;" ++
      "database=older;App=x=y "
    let pairs := [("Server".toList, "h;i".toList), ("Initial Catalog".toList, "old".toList),
      ("Password".toList, "a;b=c d".toList), ("database".toList, "older".toList),
      ("App".toList, "x=y".toList)]
    (isUrl (trim settings.toList) = false ∧ Settings.settings? settings.toList = some pairs ∧
      pairs ≠ [] ∧ DatabaseName.isValid "New".toList = true) ∧
    (∀ pair ∈ pairs, Settings.Respected pair) ∧
    ∃ written, withDatabase .sqlServer settings "New" = .ok written ∧
      Settings.settings? written.toList =
        some [("Server".toList, "h;i".toList), ("Initial Catalog".toList, "New".toList),
          ("Password".toList, "a;b=c d".toList), ("App".toList, "x=y".toList)] := by
  intro settings pairs
  have plain : isUrl (trim settings.toList) = false := by decide +kernel
  have read : Settings.settings? settings.toList = some pairs := by decide +kernel
  have present : pairs ≠ [] := List.cons_ne_nil _ _
  have valid : DatabaseName.isValid "New".toList = true := by decide +kernel
  have respected : ∀ pair ∈ pairs, Settings.Respected pair := by decide +kernel
  obtain ⟨written, made, respects, _⟩ :=
    with_database_quoted_values .sqlServer settings "New" pairs
    (by decide) plain read present valid
  exact ⟨⟨plain, read, present, valid⟩, respected, written, made, respects.mpr respected⟩

/-- A blank is lost behind a semicolon in a password, and what looks like a setting of the database
in a password is taken for one. -/
theorem with_database_corrupts_quoted :
    (let settings := "Server=h;Database=app;Password=\"a; b\""
      let written := "Server=h;Database=other;Password=\"a;b\""
      withDatabase .sqlServer settings "other" = .ok written ∧
        Settings.settings? settings.toList = some [("Server".toList, "h".toList),
          ("Database".toList, "app".toList), ("Password".toList, "a; b".toList)] ∧
        Settings.settings? written.toList = some [("Server".toList, "h".toList),
          ("Database".toList, "other".toList), ("Password".toList, "a;b".toList)]) ∧
    (let settings := "Server=h;Password=\"x;Database=y\";Database=app"
      let written := "Server=h;Password=\"x;Database=other"
      withDatabase .sqlServer settings "other" = .ok written ∧
        Settings.settings? settings.toList = some [("Server".toList, "h".toList),
          ("Password".toList, "x;Database=y".toList), ("Database".toList, "app".toList)] ∧
        Settings.settings? written.toList = none) := by
  refine ⟨⟨ok_of_to_option (by decide +kernel), by decide +kernel, by decide +kernel⟩,
    ok_of_to_option (by decide +kernel), by decide +kernel, by decide +kernel⟩

end ConnectionString

end SqlAccess
