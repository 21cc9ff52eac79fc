import Mathlib.Data.List.Forall2
import SqlAccess.Proofs.ConnectionString.Masking
import SqlAccess.Proofs.ConnectionString.UrlDatabase

/-!
# What a mask changes

A mask puts four stars into the place of a password and leaves everything else as it is. Main
statement: masking what is masked already changes nothing, for URLs and for settings; and of
settings exactly the segments with a key of the password are changed, which keep the key as it is
written.

A second mask reads the string anew, so it has to be seen that the first one has moved no border: a
masked string has no blanks at its ends, is a URL where the string was one, and comes apart at the
same marks.
-/

namespace SqlAccess

open Text

namespace Settings

variable {segment key value s : List Char}

/-- A segment and what a mask makes of it. -/
inductive Conceals : List Char → List Char → Prop
  /-- The value of a key of the password is hidden, and the key stays as it is written. -/
  | password {key : List Char} (value : List Char) (free : '=' ∉ key)
      (names : lowerAscii (trim key) = "password".toList ∨ lowerAscii (trim key) = "pwd".toList) :
      Conceals (key ++ '=' :: value) (key ++ "=****".toList)
  /-- A segment without such a key stays as it is. -/
  | other {segment : List Char}
      (unnamed : ∀ key value, segment = key ++ '=' :: value → '=' ∉ key →
        lowerAscii (trim key) ≠ "password".toList ∧ lowerAscii (trim key) ≠ "pwd".toList) :
      Conceals segment segment

/-- The keys of the password. -/
theorem is_password_key_iff : isPasswordKey key = true ↔
    lowerAscii (trim key) = "password".toList ∨ lowerAscii (trim key) = "pwd".toList := by
  simp [isPasswordKey, isKeyAmong]

/-- A mask conceals each segment. -/
theorem conceals_masked_segment (segment : List Char) :
    Conceals segment (maskedSegment segment) := by
  unfold maskedSegment
  cases cut : pair? segment with
  | none =>
    refine .other fun key value whole _ => absurd ?_ (cut_at_eq_none_iff.mp cut)
    rw [whole]
    exact List.mem_append_right _ List.mem_cons_self
  | some pair =>
    obtain ⟨key, value⟩ := pair
    obtain ⟨rfl, free⟩ := cut_at_eq_some_iff.mp cut
    dsimp only
    split
    · rename_i names
      exact .password value free (is_password_key_iff.mp names)
    · rename_i unnamed
      refine .other fun other otherValue whole otherFree => ?_
      -- a segment has one key only, so the other one is the key that was looked at
      have same : pair? (key ++ '=' :: value) = some (other, otherValue) := by
        rw [whole]
        exact cut_at_append otherFree otherValue
      rw [cut] at same
      cases same
      exact not_or.mp fun named => unnamed (is_password_key_iff.mpr named)

/-- Concealing a segment twice is concealing it once. -/
theorem masked_segment_masked_segment (segment : List Char) :
    maskedSegment (maskedSegment segment) = maskedSegment segment := by
  cases cut : pair? segment with
  | none => simp only [maskedSegment, cut]
  | some pair =>
    obtain ⟨key, value⟩ := pair
    obtain ⟨_, free⟩ := cut_at_eq_some_iff.mp cut
    by_cases names : isPasswordKey key = true
    · have again : pair? (key ++ "=****".toList) = some (key, "****".toList) :=
        cut_at_append free _
      simp only [maskedSegment, cut, names, if_true, again]
    · simp only [maskedSegment, cut, names, if_false, Bool.false_eq_true]

/-- Masked settings are settled: a second mask changes nothing. -/
theorem masked_masked (s : List Char) : masked (masked s) = masked s := by
  rw [masked, split_on_masked, List.map_map, masked]
  exact congrArg (joinWith [';'])
    (List.map_congr_left fun segment _ => masked_segment_masked_segment segment)

section Borders

/-- A segment that is changed has something before its equals sign. -/
theorem masked_segment_cases (segment : List Char) :
    maskedSegment segment = segment ∨
      ∃ key value, segment = key ++ '=' :: value ∧ key ≠ [] ∧
        maskedSegment segment = key ++ "=****".toList := by
  have conceals := conceals_masked_segment segment
  generalize maskedSegment segment = concealed at conceals
  cases conceals with
  | other => exact Or.inl rfl
  | password value free names =>
    refine Or.inr ⟨_, value, rfl, ?_, rfl⟩
    rintro rfl
    exact absurd names (by decide)

/-- Masked settings begin as the settings do, up to the first semicolon or equals sign. -/
theorem masked_begins (s : List Char) :
    ∃ kept rest, masked s = kept ++ rest ∧ kept <+: s ∧
      ∀ c ∈ rest.head?, c = ';' ∨ c = '=' := by
  obtain ⟨piece, others, pieces⟩ := List.exists_cons_of_ne_nil (split_on_ne_nil ';' s)
  have begins : piece <+: s := by
    obtain ⟨behind, joined, _⟩ := exists_join_with_cons ';' piece others
    rw [← pieces, join_with_split_on] at joined
    exact ⟨behind, joined.symm⟩
  obtain ⟨behind, joined, semicolon⟩ :=
    exists_join_with_cons ';' (maskedSegment piece) (others.map maskedSegment)
  rw [masked, pieces, List.map_cons, joined]
  rcases masked_segment_cases piece with same | ⟨key, value, rfl, _, hidden⟩
  · exact ⟨piece, behind, by rw [same], begins, fun c first => Or.inl (semicolon c first)⟩
  · refine ⟨key, "=****".toList ++ behind, by rw [hidden, List.append_assoc],
      (List.prefix_append key _).trans begins, ?_⟩
    rintro c ⟨⟩
    exact Or.inr rfl

/-- A masked segment ends without a blank where the segment does. -/
theorem masked_segment_ends (ends : ∀ c ∈ segment.getLast?, isBlank c = false) :
    ∀ c ∈ (maskedSegment segment).getLast?, isBlank c = false := by
  rcases masked_segment_cases segment with same | ⟨key, value, _, _, hidden⟩
  · rwa [same]
  · intro c last
    rw [hidden, List.getLast?_append] at last
    obtain rfl : '*' = c := Option.some.inj last
    decide

/-- Masked settings have no blanks at their ends where the settings have none. -/
theorem trimmed_masked (trimmed : Trimmed s) : Trimmed (masked s) where
  starts := by
    intro c first
    obtain ⟨kept, rest, whole, ⟨behind, rfl⟩, mark⟩ := masked_begins s
    rw [whole, List.head?_append, Option.mem_def, Option.or_eq_some_iff] at first
    rcases first with own | ⟨_, other⟩
    · refine trimmed.starts c ?_
      rw [List.head?_append, own]
      rfl
    · rcases mark c other with rfl | rfl <;> decide
  ends := by
    have single {segment : List Char} (free : ';' ∉ segment) :
        masked segment = maskedSegment segment := by
      rw [masked, split_on_of_not_mem free, List.map_singleton]
      exact List.append_nil _
    -- only the last segment is at the end, or the semicolon before it where it is empty
    cases cut : cutAtLast ';' s with
    | none =>
      rw [single (cut_at_last_eq_none_iff.mp cut)]
      exact masked_segment_ends trimmed.ends
    | some halves =>
      obtain ⟨front, last⟩ := halves
      obtain ⟨rfl, free⟩ := cut_at_last_eq_some_iff.mp cut
      have lastEnds : ∀ c ∈ last.getLast?, isBlank c = false := fun c found =>
        trimmed.ends c (by simp [List.getLast?_append, List.getLast?_cons, Option.mem_def.mp found])
      intro c found
      rw [masked_append_cons, single free, List.getLast?_append, List.getLast?_cons] at found
      cases end_ : (maskedSegment last).getLast? with
      | none =>
        obtain rfl : ';' = c := by simpa [end_] using found
        decide
      | some d =>
        obtain rfl : d = c := by simpa [end_] using found
        exact masked_segment_ends lastEnds d end_

/-- Settings that are no URL do not become one by being masked. -/
theorem is_url_masked (settings : ConnectionString.isUrl s = false) :
    ConnectionString.isUrl (masked s) = false := by
  obtain ⟨kept, rest, whole, begins, mark⟩ := masked_begins s
  rw [Bool.eq_false_iff, whole]
  intro url
  have shows := ConnectionString.is_url_of_append mark url
  rw [ConnectionString.is_url_of_begins shows begins] at settings
  cases settings

end Borders

end Settings

namespace ConnectionString

variable {s : List Char}

/-- A URL is left as it is, or shows stars between the colon behind the user and the first at
sign. -/
theorem masked_url_cases (recognized : isUrl s = true) :
    maskedUrl s = s ∨ ∃ word user password rest,
      s = word ++ "://".toList ++ (user ++ ':' :: password ++ '@' :: rest) ∧
      isUrl (word ++ "://".toList) = true ∧ ':' ∉ word ∧ '@' ∉ user ∧
      maskedUrl s = word ++ "://".toList ++ (user ++ ':' :: "****".toList ++ '@' :: rest) := by
  obtain ⟨word, behind, rfl, ⟨scheme, listed, form⟩, lower⟩ := exists_of_is_url recognized
  have colonFree : ':' ∉ word := fun member =>
    (visible_of_to_lower (lower _ (List.mem_map_of_mem member))).2 rfl
  have opens : isUrl (word ++ "://".toList) = true := by
    refine is_url_iff.mpr ⟨scheme, listed, ?_⟩
    rw [form, lower_ascii_append]
    exact List.prefix_refl _
  have first : cutAtPart "://".toList (word ++ "://".toList ++ behind) = some (word, behind) :=
    cut_at_part_append colonFree behind
  cases cut : cutAt '@' behind with
  | none => exact Or.inl (by simp only [maskedUrl, first, cut])
  | some halves =>
    obtain ⟨credentials, rest⟩ := halves
    obtain ⟨rfl, atFree⟩ := cut_at_eq_some_iff.mp cut
    cases parted : cutAtLast ':' credentials with
    | none => exact Or.inl (by simp only [maskedUrl, first, cut, parted])
    | some parts =>
      obtain ⟨user, password⟩ := parts
      obtain ⟨rfl, passwordFree⟩ := cut_at_last_eq_some_iff.mp parted
      have userFree : '@' ∉ user := fun member => atFree (List.mem_append_left _ member)
      have free : '@' ∉ password := fun member =>
        atFree (List.mem_append_right _ (List.mem_cons_of_mem _ member))
      refine Or.inr ⟨word, user, password, rest, rfl, opens, colonFree, userFree, ?_⟩
      rw [masked_url_eq word colonFree userFree free rest,
        shown_in_url_eq_nil_iff.mpr passwordFree]
      simp

/-- A masked URL is a URL without blanks at its ends that a second mask does not change. -/
theorem masked_url_settled (recognized : isUrl s = true) (trimmed : Trimmed s) :
    isUrl (maskedUrl s) = true ∧ Trimmed (maskedUrl s) ∧
      maskedUrl (maskedUrl s) = maskedUrl s := by
  rcases masked_url_cases recognized with
    same | ⟨word, user, password, rest, rfl, opens, colonFree, userFree, hidden⟩
  · rw [same]
    exact ⟨recognized, trimmed, same⟩
  · have again := masked_url_eq word colonFree userFree
      (by decide : '@' ∉ "****".toList) rest
    have nothing : shownInUrl "****".toList = [] := by decide
    have stars : Trimmed "****@".toList := trimmed_of_forall (forall_mem_of_all (by decide))
    have replaced := @Trimmed.replaced (word ++ "://".toList ++ (user ++ [':'])) (password ++ ['@'])
      rest "****@".toList (by simpa using trimmed) stars (by decide)
    rw [hidden]
    refine ⟨is_url_of_begins opens (List.prefix_append _ _), by simpa using replaced, ?_⟩
    rw [again, nothing]
    simp

/-- Masking what is masked changes nothing. Of settings, a mask keeps the number of segments and
conceals each of them: it changes those with a key of the password, and no other.

Proof: a masked URL is recognized and trimmed still, and its password is the mask, which is masked
as itself. Settings are masked segment by segment, and the key of a masked segment is the one that
it had. -/
theorem masked_conceals (s : String) :
    masked (masked s) = masked s ∧
      (isUrl (trim s.toList) = false →
        List.Forall₂ Settings.Conceals (splitOn ';' (trim s.toList))
          (splitOn ';' (masked s).toList)) := by
  have trimmed := trimmed_trim s.toList
  cases recognized : isUrl (trim s.toList) with
  | true =>
    refine ⟨?_, nofun⟩
    have once : masked s = String.ofList (maskedUrl (trim s.toList)) := by
      rw [masked, recognized, if_pos rfl]
    obtain ⟨stillUrl, stillTrimmed, settled⟩ := masked_url_settled recognized trimmed
    rw [once, masked, String.toList_ofList, stillTrimmed.trim_eq, stillUrl, if_pos rfl, settled]
  | false =>
    have once : masked s = String.ofList (Settings.masked (trim s.toList)) := by
      rw [masked, recognized, if_neg Bool.false_ne_true]
    have stillTrimmed := Settings.trimmed_masked trimmed
    have stillSettings := Settings.is_url_masked recognized
    refine ⟨?_, fun _ => ?_⟩
    · rw [once, masked, String.toList_ofList, stillTrimmed.trim_eq, stillSettings,
        if_neg Bool.false_ne_true, Settings.masked_masked]
    · rw [once, String.toList_ofList, Settings.split_on_masked, List.forall₂_map_right_iff]
      exact List.forall₂_same.mpr fun segment _ => Settings.conceals_masked_segment segment

/-- Settings with a key of the password in capitals and between blanks, a value with an equals sign,
an empty segment, a key without a value, and a value that is spelt like a key. -/
theorem masked_conceals_crowded :
    let settings := " Server=h; PWD =a=b;;Password;x=pwd "
    isUrl (trim settings.toList) = false ∧
      masked settings = "Server=h; PWD =****;;Password;x=pwd" ∧
      masked (masked settings) = masked settings ∧
      List.Forall₂ Settings.Conceals (splitOn ';' (trim settings.toList))
        (splitOn ';' (masked settings).toList) := by
  intro settings
  have recognized : isUrl (trim settings.toList) = false := by decide
  have hidden : masked settings = "Server=h; PWD =****;;Password;x=pwd" := by decide +kernel
  exact ⟨recognized, hidden, (masked_conceals settings).1,
    (masked_conceals settings).2 recognized⟩

end ConnectionString

end SqlAccess
