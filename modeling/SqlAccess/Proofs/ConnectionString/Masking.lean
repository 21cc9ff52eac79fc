import SqlAccess.ConnectionString
import SqlAccess.Proofs.ConnectionString.Segments
import SqlAccess.Proofs.Text.Trim

/-!
# What a mask shows

A mask finds a password by single characters. In a URL it hides what stands between the last colon
and the first at sign, so it shows the part of a password up to its last colon. In settings it
hides the values of the keys of the password, each up to the next semicolon, so it shows what
stands behind a semicolon inside a value, quoted or not. The database of settings is read from
their mask as from the settings themselves.
-/

namespace SqlAccess

open Text

namespace Settings

variable {before key value after s : List Char}

/-- The part of a value that a mask shows: from its first semicolon on, where it is taken for
settings of its own. -/
def shown (value : List Char) : List Char :=
  match cutAt ';' value with
  | some (_, behind) => ';' :: masked behind
  | none => []

/-- Settings that a semicolon divides are masked one by one. -/
theorem masked_append_cons (s rest : List Char) :
    masked (s ++ ';' :: rest) = masked s ++ ';' :: masked rest := by
  obtain ⟨piece, pieces, front⟩ := List.exists_cons_of_ne_nil (split_on_ne_nil ';' s)
  obtain ⟨next, others, back⟩ := List.exists_cons_of_ne_nil (split_on_ne_nil ';' rest)
  simp only [masked, split_on_append, front, back, List.map_append, List.map_cons, List.cons_append,
    joinWith, List.flatMap_append, List.flatMap_cons, List.append_assoc, List.nil_append]

/-- A setting of the password is hidden up to the first semicolon of its value. -/
theorem masked_setting (semicolonFree : ';' ∉ key) (equalsFree : '=' ∉ key)
    (names : isPasswordKey key = true) (value : List Char) :
    masked (key ++ '=' :: value) = key ++ "=****".toList ++ shown value := by
  have alone {value : List Char} (free : ';' ∉ value) :
      masked (key ++ '=' :: value) = key ++ "=****".toList := by
    have whole : ';' ∉ key ++ '=' :: value := by simp [semicolonFree, free]
    simp [masked, split_on_of_not_mem whole, maskedSegment, pair?, cut_at_append equalsFree, names,
      joinWith]
  unfold shown
  cases cut : cutAt ';' value with
  | none => rw [alone (cut_at_eq_none_iff.mp cut), List.append_nil]
  | some halves =>
    obtain ⟨front, behind⟩ := halves
    obtain ⟨rfl, free⟩ := cut_at_eq_some_iff.mp cut
    rw [← List.cons_append, ← List.append_assoc, masked_append_cons, alone free]

/-- What a mask shows of a value with settings behind it. -/
theorem shown_append_cons (value after : List Char) :
    shown (value ++ ';' :: after) = shown value ++ ';' :: masked after := by
  cases cut : cutAt ';' value with
  | none =>
    simp only [shown, cut, cut_at_append (cut_at_eq_none_iff.mp cut), List.nil_append]
  | some halves =>
    obtain ⟨front, behind⟩ := halves
    obtain ⟨rfl, free⟩ := cut_at_eq_some_iff.mp cut
    simp only [shown, List.append_assoc, List.cons_append, cut_at_append free, masked_append_cons]

/-- A mask shows nothing of a value exactly when it holds no semicolon. -/
theorem shown_eq_nil_iff : shown value = [] ↔ ';' ∉ value := by
  rw [← cut_at_eq_none_iff, shown]
  cases cutAt ';' value <;> simp

/-- What a mask shows of the last setting, blanks at the end cut off. -/
theorem shown_trim_end (form : ';' ∉ value ∨ ∃ inner, value = '"' :: inner ++ ['"']) :
    shown (trimEnd value) = shown value := by
  rcases form with free | ⟨inner, rfl⟩
  · have freeStill : ';' ∉ trimEnd value :=
      fun member => free ((trim_end_begins value).subset member)
    rw [shown_eq_nil_iff.mpr free, shown_eq_nil_iff.mpr freeStill]
  · have ink : isBlank '"' = false := by decide
    have whole := trim_end_append_cons ink ('"' :: inner) []
    rw [show trimEnd [] = [] from rfl] at whole
    rw [whole]

/-- What stands behind a value is masked by itself. -/
theorem shown_behind (end_ : after = [] ∨ ∃ later, after = ';' :: later) :
    ∃ back, ∀ value, (';' ∉ value ∨ ∃ inner, value = '"' :: inner ++ ['"']) →
      shown (trimEnd (value ++ after)) = shown value ++ back := by
  rcases end_ with rfl | ⟨later, rfl⟩
  · refine ⟨[], fun value form => ?_⟩
    rw [List.append_nil, List.append_nil, shown_trim_end form]
  · refine ⟨';' :: masked (trimEnd later), fun value _ => ?_⟩
    rw [trim_end_append_cons (by decide), shown_append_cons]

/-- What stands before a value is masked by itself. -/
theorem masked_before (start : before = [] ∨ ∃ earlier, before = earlier ++ [';'])
    (semicolonFree : ';' ∉ key) (equalsFree : '=' ∉ key) (names : isPasswordKey key = true) :
    ∃ front, ∀ value,
      masked (trimStart (before ++ key) ++ '=' :: value) = front ++ shown value := by
  rcases start with rfl | ⟨earlier, rfl⟩
  · have inside := (List.dropWhile_sublist isBlank (l := key)).subset
    have namesStill : isPasswordKey (trimStart key) = true := by
      rw [← names, isPasswordKey, isPasswordKey, isKeyAmong, isKeyAmong, trim_trim_start]
    refine ⟨trimStart key ++ "=****".toList, fun value => ?_⟩
    exact masked_setting (fun member => semicolonFree (inside member))
      (fun member => equalsFree (inside member)) namesStill value
  · refine ⟨masked (trimStart earlier) ++ ';' :: (key ++ "=****".toList), fun value => ?_⟩
    rw [List.append_assoc, List.singleton_append, trim_start_append_cons (by decide),
      List.append_assoc, List.cons_append, masked_append_cons,
      masked_setting semicolonFree equalsFree names]
    simp

/-- The keys of the password are not among those of the database. -/
theorem is_database_key_of_is_password_key (names : isPasswordKey key = true) :
    isDatabaseKey key = false := by
  simp only [isPasswordKey, isDatabaseKey, isKeyAmong, List.any_cons, List.any_nil, Bool.or_false,
    Bool.or_eq_true, beq_iff_eq] at names ⊢
  rcases names with same | same <;> rw [same] <;> decide

/-- A masked setting of the password still sets the password; all others are left alone. -/
theorem filter_pair?_masked_segment (segment : List Char) :
    (pair? (maskedSegment segment)).filter (fun pair => isDatabaseKey pair.1) =
      (pair? segment).filter fun pair => isDatabaseKey pair.1 := by
  unfold maskedSegment
  cases cut : pair? segment with
  | none => rw [cut]
  | some pair =>
    obtain ⟨key, value⟩ := pair
    dsimp only
    split
    · rename_i names
      obtain ⟨_, free⟩ := cut_at_eq_some_iff.mp cut
      have again : pair? (key ++ "=****".toList) = some (key, "****".toList) := cut_at_append free _
      rw [again]
      simp [Option.filter, is_database_key_of_is_password_key names]
    · rw [cut]

/-- A masked segment is one segment. -/
theorem not_mem_masked_segment {segment : List Char} (free : ';' ∉ segment) :
    ';' ∉ maskedSegment segment := by
  unfold maskedSegment
  split
  · rename_i key value cut
    obtain ⟨rfl, _⟩ := cut_at_eq_some_iff.mp cut
    split
    · have keyFree : ';' ∉ key := fun member => free (List.mem_append_left _ member)
      simp [keyFree]
    · exact free
  · exact free

/-- Masked settings have the same segments, each of them masked. -/
theorem split_on_masked (s : List Char) :
    splitOn ';' (masked s) = (splitOn ';' s).map maskedSegment := by
  refine split_on_join_with (by simpa using split_on_ne_nil ';' s) fun piece member => ?_
  obtain ⟨segment, listed, rfl⟩ := List.mem_map.mp member
  exact not_mem_masked_segment (not_mem_of_mem_split_on ';' s segment listed)

/-- The database is read from masked settings as from the settings themselves. -/
theorem database?_masked (s : List Char) : database? (masked s) = database? s := by
  have values : (splitOn ';' (masked s)).filterMap
        (fun segment => (pair? segment).filter fun pair => isDatabaseKey pair.1) =
      (splitOn ';' s).filterMap
        fun segment => (pair? segment).filter fun pair => isDatabaseKey pair.1 := by
    rw [split_on_masked, List.filterMap_map]
    exact congrArg (List.filterMap · _) (funext filter_pair?_masked_segment)
  rw [database?, database?, values]

end Settings

namespace ConnectionString

section Urls

variable {scheme user password rest : List Char}

/-- The part of a password that the mask of a URL shows: up to its last colon. -/
def shownInUrl (password : List Char) : List Char :=
  match cutAtLast ':' password with
  | some (front, _) => front ++ [':']
  | none => []

/-- A mask shows nothing of a password exactly when it holds no colon. -/
theorem shown_in_url_eq_nil_iff : shownInUrl password = [] ↔ ':' ∉ password := by
  rw [← cut_at_last_eq_none_iff, shownInUrl]
  cases cutAtLast ':' password <;> simp

/-- The mask of a URL, with the part of the password that it shows. -/
theorem masked_url_eq (word : List Char) (colonFree : ':' ∉ word) (userFree : '@' ∉ user)
    (free : '@' ∉ password) (rest : List Char) :
    maskedUrl (word ++ "://".toList ++ (user ++ ':' :: password ++ '@' :: rest)) =
      word ++ "://".toList ++ (user ++ ':' :: shownInUrl password ++ "****@".toList ++ rest) := by
  have first : cutAtPart "://".toList
        (word ++ "://".toList ++ (user ++ ':' :: password ++ '@' :: rest)) =
      some (word, user ++ ':' :: password ++ '@' :: rest) := cut_at_part_append colonFree _
  have at_ : '@' ∉ user ++ ':' :: password := by simp [userFree, free]
  simp only [maskedUrl, first, cut_at_append at_]
  cases cut : cutAtLast ':' password with
  | none =>
    rw [cut_at_last_append user (cut_at_last_eq_none_iff.mp cut)]
    simp [shownInUrl, cut]
  | some halves =>
    obtain ⟨front, back⟩ := halves
    obtain ⟨rfl, backFree⟩ := cut_at_last_eq_some_iff.mp cut
    have both : user ++ ':' :: (front ++ ':' :: back) = (user ++ ':' :: front) ++ ':' :: back := by
      simp
    rw [both, cut_at_last_append _ backFree]
    simp [shownInUrl, cut]

end Urls

section Forms

variable {s : List Char}

/-- The mask of a URL. -/
theorem masked_of_url (url : isUrl (trim s) = true) :
    (masked (String.ofList s)).toList = maskedUrl (trim s) := by
  simp only [masked, String.toList_ofList, url, if_true]

/-- The mask of settings. -/
theorem masked_of_settings (settings : isUrl (trim s) = false) :
    (masked (String.ofList s)).toList = Settings.masked (trim s) := by
  simp only [masked, String.toList_ofList, settings, Bool.false_eq_true, if_false]

end Forms

end ConnectionString

end SqlAccess
