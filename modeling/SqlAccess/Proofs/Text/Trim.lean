import SqlAccess.Proofs.Text.Cut
import SqlAccess.Text.Blank

/-!
# Trimming

A trimmed text neither begins nor ends with a blank. Trimming gives such a text, changes none that
is one already, and takes no notice of blanks that are put around a text.
-/

namespace SqlAccess.Text

/-- A text without blanks at its ends. -/
structure Trimmed (s : List Char) : Prop where
  starts : ∀ c ∈ s.head?, isBlank c = false
  ends : ∀ c ∈ s.getLast?, isBlank c = false

/-- A text without any blank is trimmed. -/
theorem trimmed_of_forall {s : List Char} (ink : ∀ c ∈ s, isBlank c = false) : Trimmed s where
  starts := fun c first => ink c (List.mem_of_mem_head? first)
  ends := fun c last => ink c (List.mem_of_getLast? last)

/-- A trimmed text behind another one ends and begins without a blank. -/
theorem Trimmed.append {s rest : List Char} (first : Trimmed s) (second : Trimmed rest) :
    Trimmed (s ++ rest) where
  starts := by
    intro c found
    rw [List.head?_append, Option.mem_def, Option.or_eq_some_iff] at found
    rcases found with own | ⟨_, other⟩
    · exact first.starts c own
    · exact second.starts c other
  ends := by
    intro c found
    rw [List.getLast?_append, Option.mem_def, Option.or_eq_some_iff] at found
    rcases found with own | ⟨_, other⟩
    · exact second.ends c own
    · exact first.ends c other

/-- Whatever stands between two trimmed texts that are not empty. -/
theorem Trimmed.around {s rest : List Char} (first : Trimmed s) (last : Trimmed rest)
    (someFirst : s ≠ []) (someLast : rest ≠ []) (middle : List Char) :
    Trimmed (s ++ middle ++ rest) where
  starts := by
    intro c found
    obtain ⟨d, others, rfl⟩ := List.exists_cons_of_ne_nil someFirst
    exact first.starts c found
  ends := by
    intro c found
    rw [List.getLast?_append, Option.mem_def, Option.or_eq_some_iff] at found
    rcases found with own | ⟨empty, _⟩
    · exact last.ends c own
    · exact absurd (List.getLast?_eq_none_iff.mp empty) someLast

/-- A word may take the place of any part of a trimmed text. -/
theorem Trimmed.replaced {front part back word : List Char}
    (whole : Trimmed (front ++ (part ++ back))) (trimmed : Trimmed word) (nonempty : word ≠ []) :
    Trimmed (front ++ (word ++ back)) where
  starts := by
    intro c found
    obtain ⟨d, others, rfl⟩ := List.exists_cons_of_ne_nil nonempty
    cases front with
    | nil => exact trimmed.starts c found
    | cons first rest => exact whole.starts c found
  ends := by
    intro c found
    have others : ∀ s, s ++ (part ++ back) = (s ++ part) ++ back :=
      fun s => (List.append_assoc s part back).symm
    rw [← List.append_assoc, List.getLast?_append, Option.mem_def, Option.or_eq_some_iff] at found
    rcases found with own | ⟨_, before⟩
    · refine whole.ends c ?_
      rw [others, List.getLast?_append, own]
      rfl
    · rw [List.getLast?_append, Option.or_eq_some_iff] at before
      rcases before with last | ⟨empty, _⟩
      · exact trimmed.ends c last
      · exact absurd (List.getLast?_eq_none_iff.mp empty) nonempty

/-- A text between two characters that are not blank is trimmed. -/
theorem trimmed_of_ends {first last : Char} (firstInk : isBlank first = false)
    (middle : List Char) (lastInk : isBlank last = false) :
    Trimmed (first :: (middle ++ [last])) := by
  have alone {c : Char} (ink : isBlank c = false) : Trimmed [c] :=
    trimmed_of_forall (List.forall_mem_singleton.mpr ink)
  exact (alone firstInk).around (alone lastInk) (List.cons_ne_nil _ _) (List.cons_ne_nil _ _) middle

/-- What begins without a blank is not cut at the start. -/
theorem trim_start_eq_self {s : List Char} (starts : ∀ c ∈ s.head?, isBlank c = false) :
    trimStart s = s := by
  cases s with
  | nil => rfl
  | cons c rest => exact List.dropWhile_cons_of_neg (by simp [starts c rfl])

/-- What follows a text that begins without a blank makes no difference to that. -/
theorem trim_start_append_eq_self {s : List Char} (nonempty : s ≠ [])
    (ink : ∀ c ∈ s, isBlank c = false) (rest : List Char) :
    trimStart (s ++ rest) = s ++ rest := by
  obtain ⟨c, others, rfl⟩ := List.exists_cons_of_ne_nil nonempty
  exact List.dropWhile_cons_of_neg (by simp [ink c List.mem_cons_self])

/-- What ends without a blank is not cut at the end. -/
theorem trim_end_eq_self {s : List Char} (ends : ∀ c ∈ s.getLast?, isBlank c = false) :
    trimEnd s = s := by
  have backwards : trimStart s.reverse = s.reverse :=
    trim_start_eq_self (by rwa [List.head?_reverse])
  change (trimStart s.reverse).reverse = s
  rw [backwards, List.reverse_reverse]

/-- A trimmed text stays as it is. -/
theorem Trimmed.trim_eq {s : List Char} (trimmed : Trimmed s) : trim s = s := by
  rw [trim, trim_start_eq_self trimmed.starts, trim_end_eq_self trimmed.ends]

/-- After a cut at the start no blank is there. -/
theorem head?_trim_start (s : List Char) : ∀ c ∈ (trimStart s).head?, isBlank c = false := by
  intro c first
  have kept := List.head?_dropWhile_not isBlank s
  rw [trimStart] at first
  rw [first] at kept
  exact kept

/-- A cut at the end leaves the front of a text. -/
theorem trim_end_begins (s : List Char) : trimEnd s <+: s := by
  rw [← List.reverse_suffix, trimEnd, List.reverse_reverse]
  exact List.dropWhile_suffix isBlank

/-- Trimming leaves some of the characters in their order. -/
theorem trim_sublist (s : List Char) : (trim s).Sublist s := by
  have front := trim_end_begins (trimStart s)
  exact front.sublist.trans (List.dropWhile_sublist isBlank)

/-- A text that starts without a blank is cut at its end only. -/
theorem trim_begins {s : List Char} (starts : ∀ c ∈ s.head?, isBlank c = false) :
    trim s <+: s := by
  rw [trim, trim_start_eq_self starts]
  exact trim_end_begins s

/-- What trimming gives is trimmed. -/
theorem trimmed_trim (s : List Char) : Trimmed (trim s) where
  starts := by
    intro c first
    obtain ⟨rest, whole⟩ := trim_end_begins (trimStart s)
    refine head?_trim_start s c ?_
    rw [← whole, List.head?_append, show (trimEnd (trimStart s)).head? = some c from first]
    rfl
  ends := by
    intro c last
    rw [trim, trimEnd, List.getLast?_reverse] at last
    exact head?_trim_start _ c last

/-- Blanks in front are cut away. -/
theorem trim_start_blank_append {front : List Char} (blank : front.all isBlank = true)
    (s : List Char) : trimStart (front ++ s) = trimStart s :=
  List.dropWhile_append_of_pos (List.all_eq_true.mp blank)

/-- Blanks behind are cut away. -/
theorem trim_end_append_blank {back : List Char} (blank : back.all isBlank = true)
    (s : List Char) : trimEnd (s ++ back) = trimEnd s := by
  have backwards : back.reverse.all isBlank = true := by rwa [List.all_reverse]
  change (trimStart (s ++ back).reverse).reverse = _
  rw [List.reverse_append, trim_start_blank_append backwards]
  rfl

/-- Blanks around a text make no difference to what trimming gives. -/
theorem trim_spaced {front back : List Char} (frontBlank : front.all isBlank = true)
    (backBlank : back.all isBlank = true) (s : List Char) :
    trim (front ++ s ++ back) = trim s := by
  rw [List.append_assoc, trim, trim_start_blank_append frontBlank, trim]
  by_cases blank : s.all isBlank = true
  · rw [trim_start_blank_append blank, (trim_start_eq_nil_iff back).mpr backBlank,
      (trim_start_eq_nil_iff s).mpr blank]
  · have kept : trimStart (s ++ back) = trimStart s ++ back := by
      have found : trimStart s ≠ [] := fun empty => blank ((trim_start_eq_nil_iff s).mp empty)
      simp only [trimStart] at found ⊢
      rw [List.dropWhile_append]
      simp [found]
    rw [kept, trim_end_append_blank backBlank]

/-- A cut at the start stops before a character that is not blank. -/
theorem trim_start_append_cons {c : Char} (ink : isBlank c = false) (s rest : List Char) :
    trimStart (s ++ c :: rest) = trimStart s ++ c :: rest := by
  have stops : (c :: rest).dropWhile isBlank = c :: rest :=
    List.dropWhile_cons_of_neg (by simp [ink])
  rw [trimStart, List.dropWhile_append, stops]
  split
  · rename_i nothing
    rw [trimStart, List.isEmpty_iff.mp nothing]
    rfl
  · rfl

/-- A cut at the end does, too. -/
theorem trim_end_append_cons {c : Char} (ink : isBlank c = false) (s rest : List Char) :
    trimEnd (s ++ c :: rest) = s ++ c :: trimEnd rest := drop_end_while_append_cons ink s rest

/-- What is not blank keeps all that stands before it. -/
theorem trim_end_append_of_visible {rest : List Char} (visible : rest.all isBlank = false)
    (s : List Char) : trimEnd (s ++ rest) = s ++ trimEnd rest := by
  obtain ⟨c, member, ink⟩ := List.all_eq_false.mp visible
  obtain ⟨before, behind, rfl⟩ := List.append_of_mem member
  rw [Bool.not_eq_true] at ink
  rw [← List.append_assoc, trim_end_append_cons ink, trim_end_append_cons ink, List.append_assoc]

/-- Around a character that is not blank each end is trimmed for itself. -/
theorem trim_append_cons {c : Char} (ink : isBlank c = false) (s rest : List Char) :
    trim (s ++ c :: rest) = trimStart s ++ c :: trimEnd rest := by
  rw [trim, trim_start_append_cons ink, trim_end_append_cons ink]

/-- What is cut at the start already is trimmed as the whole is. -/
theorem trim_trim_start (s : List Char) : trim (trimStart s) = trim s := by
  rw [trim, trim_start_eq_self (head?_trim_start s), trim]

/-- Trimmed texts that are not empty stay so when they are joined. -/
theorem trimmed_join_with (separator : List Char) {pieces : List (List Char)}
    (trimmed : ∀ piece ∈ pieces, Trimmed piece ∧ piece ≠ []) :
    Trimmed (joinWith separator pieces) ∧
      (pieces ≠ [] → joinWith separator pieces ≠ []) := by
  induction pieces with
  | nil =>
    have empty : Trimmed [] := trimmed_of_forall fun _ impossible => nomatch impossible
    exact ⟨empty, fun some => absurd rfl some⟩
  | cons piece rest inductionHypothesis =>
    obtain ⟨own, others⟩ := List.forall_mem_cons.mp trimmed
    obtain ⟨restTrimmed, restSome⟩ := inductionHypothesis others
    cases rest with
    | nil => simpa [joinWith] using own
    | cons next pieces =>
      rw [join_with_cons_cons]
      have some := restSome (List.cons_ne_nil _ _)
      exact ⟨own.1.around restTrimmed own.2 some separator,
        fun _ => List.append_ne_nil_of_right_ne_nil _ some⟩

/-- A cut at the end takes blanks away and nothing else. -/
theorem exists_behind_trim_end (s : List Char) :
    ∃ back, s = trimEnd s ++ back ∧ back.all isBlank = true := by
  refine ⟨(s.reverse.takeWhile isBlank).reverse, ?_, ?_⟩
  · rw [trimEnd, ← List.reverse_append, List.takeWhile_append_dropWhile, List.reverse_reverse]
  · rw [List.all_reverse]
    exact List.all_takeWhile

/-- Trimming cuts blanks away and nothing else. -/
theorem exists_spaced (s : List Char) :
    ∃ front back, s = front ++ trim s ++ back ∧ front.all isBlank = true ∧
      back.all isBlank = true := by
  have starts : s = s.takeWhile isBlank ++ trimStart s := (List.takeWhile_append_dropWhile).symm
  obtain ⟨back, ends, backBlank⟩ := exists_behind_trim_end (trimStart s)
  refine ⟨s.takeWhile isBlank, back, ?_, List.all_takeWhile, backBlank⟩
  rw [List.append_assoc, trim, ← ends, ← starts]

/-- What is cut at the end already is trimmed as the whole is. -/
theorem trim_trim_end (s : List Char) : trim (trimEnd s) = trim s := by
  obtain ⟨back, ends, blank⟩ := exists_behind_trim_end s
  calc
    trim (trimEnd s) = trim (trimEnd s ++ back) :=
      (trim_spaced List.all_nil blank (trimEnd s)).symm
    _ = trim s := congrArg trim ends.symm

/-- Trimming takes away blanks only. -/
theorem mem_trim_iff {s : List Char} {c : Char} (ink : isBlank c = false) :
    c ∈ trim s ↔ c ∈ s := by
  refine ⟨fun member => (trim_sublist s).subset member, fun member => ?_⟩
  obtain ⟨front, back, spaced, frontBlank, backBlank⟩ := exists_spaced s
  have visible {blanks : List Char} (blank : blanks.all isBlank = true) : c ∉ blanks := by
    intro inside
    rw [List.all_eq_true.mp blank c inside] at ink
    cases ink
  rw [spaced, List.mem_append, List.mem_append] at member
  rcases member with (before | within) | behind
  · exact absurd before (visible frontBlank)
  · exact within
  · exact absurd behind (visible backBlank)

/-- Nothing is left of a text exactly when all of it is blank. -/
theorem trim_eq_nil_iff (s : List Char) : trim s = [] ↔ s.all isBlank = true := by
  constructor
  · intro nothing
    obtain ⟨front, back, whole, frontBlank, backBlank⟩ := exists_spaced s
    rw [whole, nothing, List.append_nil, List.all_append, frontBlank, backBlank]
    rfl
  · intro blank
    have spaced := trim_spaced blank List.all_nil []
    rwa [List.append_nil, List.append_nil] at spaced

end SqlAccess.Text
