import Mathlib.Data.List.Forall2
import SqlAccess.Proofs.Text.Trim

/-!
# Cutting a text where a scan says so

Quotes and parentheses decide which separators of a text count. A scan reads one character after the
other; what it has read before a character says whether the character cuts. A text that the scan
passes without a cut is one piece, and what stands behind it and the next cut is cut by itself, from
where the scan has come. So pieces that are joined come apart again, whatever they hold between
quotes, if each of them brings the scan back to where it began.
-/

namespace SqlAccess.Lexical

open Text

/-- A reading of one character after the other that says which of them cut. -/
structure Scan (σ : Type) where
  next : σ → Char → σ
  cuts : σ → Char → Bool

namespace Scan

variable {σ : Type} (scan : Scan σ) {state after : σ} {c : Char} {s rest : List Char}

/-- Where the scan is behind a text; nowhere if a character of the text cuts. -/
def through : σ → List Char → Option σ
  | state, [] => some state
  | state, c :: rest =>
    if scan.cuts state c then none else through (scan.next state c) rest

/-- The pieces of a text between the characters that cut. -/
def pieces : σ → List Char → List (List Char)
  | _, [] => [[]]
  | state, c :: rest =>
    if scan.cuts state c then [] :: pieces (scan.next state c) rest
    else (pieces (scan.next state c) rest).modifyHead (c :: ·)

/-- The text before the first character that cuts, and the text behind it. -/
def halves? : σ → List Char → Option (List Char × List Char)
  | _, [] => none
  | state, c :: rest =>
    if scan.cuts state c then some ([], rest)
    else (halves? (scan.next state c) rest).map fun halves => (c :: halves.1, halves.2)

/-- A text is passed in two parts. -/
theorem through_append (state : σ) (s rest : List Char) :
    scan.through state (s ++ rest) =
      (scan.through state s).bind fun after => scan.through after rest := by
  induction s generalizing state with
  | nil => rfl
  | cons c others inductionHypothesis =>
    rw [List.cons_append, through, through]
    split
    · rfl
    · exact inductionHypothesis _

/-- There is always a piece. -/
theorem pieces_ne_nil (state : σ) (s : List Char) : scan.pieces state s ≠ [] := by
  induction s generalizing state with
  | nil => exact List.cons_ne_nil _ _
  | cons c rest inductionHypothesis =>
    rw [pieces]
    split
    · exact List.cons_ne_nil _ _
    · obtain ⟨piece, others, later⟩ :=
        List.exists_cons_of_ne_nil (inductionHypothesis (scan.next state c))
      rw [later]
      exact List.cons_ne_nil _ _

variable {scan}

/-- A character that does not cut is passed. -/
theorem through_cons (uncut : scan.cuts state c = false) (rest : List Char) :
    scan.through state (c :: rest) = scan.through (scan.next state c) rest := by
  rw [through, uncut, if_neg Bool.false_ne_true]

/-- Characters that neither cut nor move the scan are passed. -/
theorem through_of_inert
    (inert : ∀ c ∈ s, scan.cuts state c = false ∧ scan.next state c = state) :
    scan.through state s = some state := by
  induction s with
  | nil => rfl
  | cons c others inductionHypothesis =>
    obtain ⟨⟨uncut, still⟩, later⟩ := List.forall_mem_cons.mp inert
    rw [through_cons uncut, still, inductionHypothesis later]

/-- Characters that do not cut are passed. -/
theorem exists_through_of_uncut (uncut : ∀ state, ∀ c ∈ s, scan.cuts state c = false) :
    ∃ after, scan.through state s = some after := by
  induction s generalizing state with
  | nil => exact ⟨state, rfl⟩
  | cons c others inductionHypothesis =>
    rw [through_cons (uncut state c List.mem_cons_self)]
    exact inductionHypothesis fun state d member => uncut state d (List.mem_cons_of_mem c member)

/-- What is passed is one piece. -/
theorem pieces_of_through (passes : scan.through state s = some after) :
    scan.pieces state s = [s] := by
  induction s generalizing state with
  | nil => rfl
  | cons c rest inductionHypothesis =>
    rw [through] at passes
    split at passes
    · cases passes
    · rename_i uncut
      rw [pieces, if_neg uncut, inductionHypothesis passes]
      rfl

/-- What is passed stands at the start of a first piece. -/
theorem pieces_append (passes : scan.through state s = some after) (rest : List Char) :
    scan.pieces state (s ++ rest) = (scan.pieces after rest).modifyHead (s ++ ·) := by
  induction s generalizing state with
  | nil =>
    cases passes
    exact (congrFun List.modifyHead_id (scan.pieces after rest)).symm
  | cons c others inductionHypothesis =>
    rw [through] at passes
    split at passes
    · cases passes
    · rename_i uncut
      rw [List.cons_append, pieces, if_neg uncut, inductionHypothesis passes,
        List.modifyHead_modifyHead]
      rfl

/-- What is passed before a cut is the first piece, and the others are those of the rest. -/
theorem pieces_append_cons (passes : scan.through state s = some after)
    (cut : scan.cuts after c = true) (rest : List Char) :
    scan.pieces state (s ++ c :: rest) = s :: scan.pieces (scan.next after c) rest := by
  induction s generalizing state with
  | nil =>
    cases passes
    rw [List.nil_append, pieces, if_pos cut]
  | cons d others inductionHypothesis =>
    rw [through] at passes
    split at passes
    · cases passes
    · rename_i uncut
      rw [List.cons_append, pieces, if_neg uncut, inductionHypothesis passes]
      rfl

/-- What is passed before a cut is the first half. -/
theorem halves?_append_cons (passes : scan.through state s = some after)
    (cut : scan.cuts after c = true) (rest : List Char) :
    scan.halves? state (s ++ c :: rest) = some (s, rest) := by
  induction s generalizing state with
  | nil =>
    cases passes
    rw [List.nil_append, halves?, if_pos cut]
  | cons d others inductionHypothesis =>
    rw [through] at passes
    split at passes
    · cases passes
    · rename_i uncut
      rw [List.cons_append, halves?, if_neg uncut, inductionHypothesis passes]
      rfl

/-- A text that brings the scan to where a separator cuts and brings it back. -/
def Returns (scan : Scan σ) (state : σ) (separator : Char) (item : List Char) : Prop :=
  ∃ after, scan.through state item = some after ∧ scan.cuts after separator = true ∧
    scan.next after separator = state

/-- Joined items come apart again. -/
theorem pieces_join_with {items : List (List Char)} (nonempty : items ≠ [])
    (returns : ∀ item ∈ items, scan.Returns state c item) :
    scan.pieces state (joinWith [c] items) = items := by
  induction items with
  | nil => exact absurd rfl nonempty
  | cons item others inductionHypothesis =>
    obtain ⟨⟨after, passes, cut, back⟩, later⟩ := List.forall_mem_cons.mp returns
    cases others with
    | nil => simpa [joinWith] using pieces_of_through passes
    | cons next more =>
      rw [join_with_cons_cons, List.append_assoc, List.singleton_append,
        pieces_append_cons passes cut, back, inductionHypothesis (List.cons_ne_nil _ _) later]

/-- Where every cut leads to one place, all pieces are passed from there. -/
theorem exists_through_of_mem_pieces {home : σ}
    (leads : ∀ state c, scan.cuts state c = true → scan.next state c = home) {piece : List Char}
    (member : piece ∈ scan.pieces home s) : ∃ after, scan.through home piece = some after := by
  have all (s : List Char) : ∀ state, ∃ first others, scan.pieces state s = first :: others ∧
      (∃ after, scan.through state first = some after) ∧
      ∀ piece ∈ others, ∃ after, scan.through home piece = some after := by
    induction s with
    | nil => exact fun state => ⟨[], [], rfl, ⟨state, rfl⟩, nofun⟩
    | cons c rest inductionHypothesis =>
      intro state
      obtain ⟨first, others, cut, passes, later⟩ := inductionHypothesis (scan.next state c)
      by_cases cuts : scan.cuts state c = true
      · rw [pieces, if_pos cuts, cut]
        rw [leads state c cuts] at passes
        refine ⟨[], first :: others, rfl, ⟨state, rfl⟩, ?_⟩
        exact List.forall_mem_cons.mpr ⟨passes, later⟩
      · rw [pieces, if_neg cuts, cut]
        exact ⟨c :: first, others, rfl, by rwa [through, if_neg cuts], later⟩
  obtain ⟨first, others, cut, passes, later⟩ := all s home
  rw [cut] at member
  rcases List.mem_cons.mp member with rfl | other
  · exact passes
  · exact later piece other

section Blanks

variable (uncut : ∀ state c, isBlank c = true → scan.cuts state c = false)

include uncut

/-- Blanks that do not cut make no difference behind a text, up to trimming. -/
theorem map_trim_pieces_append {back : List Char} (blank : back.all isBlank = true) (state : σ)
    (s : List Char) :
    (scan.pieces state (s ++ back)).map trim = (scan.pieces state s).map trim := by
  have passes (state : σ) : ∃ after, scan.through state back = some after :=
    exists_through_of_uncut fun state c member =>
      uncut state c (List.all_eq_true.mp blank c member)
  -- only the last piece differs, and only by the blanks behind it
  have ends : List.Forall₂ (fun piece own => piece = own ∨ piece = own ++ back)
      (scan.pieces state (s ++ back)) (scan.pieces state s) := by
    induction s generalizing state with
    | nil =>
      obtain ⟨after, passed⟩ := passes state
      rw [List.nil_append, pieces_of_through passed]
      exact .cons (Or.inr rfl) .nil
    | cons c rest inductionHypothesis =>
      have later := inductionHypothesis (scan.next state c)
      rw [List.cons_append, pieces, pieces]
      split
      · exact .cons (Or.inl rfl) later
      · generalize scan.pieces (scan.next state c) (rest ++ back) = spaced,
          scan.pieces (scan.next state c) rest = own at later ⊢
        cases later with
        | nil => exact .nil
        | cons first others =>
          exact .cons (first.imp (congrArg (c :: ·)) (congrArg (c :: ·))) others
  rw [← List.forall₂_eq_eq_eq, List.forall₂_map_left_iff, List.forall₂_map_right_iff]
  refine ends.imp fun piece own either => ?_
  rcases either with rfl | rfl
  · rfl
  · exact trim_spaced List.all_nil blank own

/-- Blanks that do not move the scan where it begins make no difference at both ends of a text, up
to trimming. -/
theorem map_trim_pieces_trim (still : ∀ c, isBlank c = true → scan.next state c = state)
    (s : List Char) :
    (scan.pieces state (trim s)).map trim = (scan.pieces state s).map trim := by
  obtain ⟨front, back, spaced, frontBlank, backBlank⟩ := exists_spaced s
  have passes : scan.through state front = some state :=
    through_of_inert fun c member =>
      ⟨uncut state c (List.all_eq_true.mp frontBlank c member),
        still c (List.all_eq_true.mp frontBlank c member)⟩
  have before (pieces : List (List Char)) :
      (pieces.modifyHead (front ++ ·)).map trim = pieces.map trim := by
    cases pieces with
    | nil => rfl
    | cons first others =>
      have cut := trim_spaced frontBlank List.all_nil first
      rw [List.append_nil] at cut
      rw [List.modifyHead_cons, List.map_cons, List.map_cons, cut]
  have whole : (scan.pieces state s).map trim = (scan.pieces state (trim s ++ back)).map trim := by
    conv_lhs => rw [spaced, List.append_assoc, pieces_append passes, before]
  rw [whole, map_trim_pieces_append uncut backBlank]

end Blanks

section Separators

variable (separator : Char)

/-- The scan that cuts at a separator wherever it stands. -/
def everywhere : Scan Unit where
  next _ _ := ()
  cuts _ c := c = separator

/-- Splitting is cutting everywhere. -/
theorem split_on_eq_pieces (s : List Char) :
    splitOn separator s = (everywhere separator).pieces () s := by
  induction s with
  | nil => rfl
  | cons c rest inductionHypothesis =>
    rw [splitOn, pieces, ← inductionHypothesis]
    by_cases same : c = separator
    · have cuts : (everywhere separator).cuts () c = true := decide_eq_true same
      rw [if_pos same, if_pos cuts]
    · have uncut : (everywhere separator).cuts () c ≠ true := by simpa [everywhere] using same
      rw [if_neg same, if_neg uncut]
      cases cut : splitOn separator rest with
      | nil => exact absurd cut (split_on_ne_nil separator rest)
      | cons piece others => rfl

variable {separator}

/-- What is free of the separator stands at the start of the first piece. -/
theorem split_on_append_of_not_mem (free : separator ∉ s) (rest : List Char) :
    splitOn separator (s ++ rest) = (splitOn separator rest).modifyHead (s ++ ·) := by
  rw [split_on_eq_pieces, split_on_eq_pieces]
  refine pieces_append (through_of_inert fun c member => ⟨?_, rfl⟩) rest
  exact decide_eq_false fun same => free (same ▸ member)

/-- Blanks at the ends of a text make no difference to how it is split, up to trimming. -/
theorem map_trim_split_on_trim (ink : isBlank separator = false) (s : List Char) :
    (splitOn separator (trim s)).map trim = (splitOn separator s).map trim := by
  rw [split_on_eq_pieces, split_on_eq_pieces]
  refine map_trim_pieces_trim (fun _ c blank => decide_eq_false ?_) (fun _ _ => rfl) s
  rintro rfl
  rw [ink] at blank
  cases blank

/-- Where only separators cut, the pieces are what a split puts together again. -/
theorem split_on_eq_flat_map_pieces
    (only : ∀ state c, scan.cuts state c = true → c = separator) (state : σ) (s : List Char) :
    splitOn separator s = (scan.pieces state s).flatMap (splitOn separator) := by
  induction s generalizing state with
  | nil => rfl
  | cons c rest inductionHypothesis =>
    obtain ⟨first, others, cut⟩ :=
      List.exists_cons_of_ne_nil (scan.pieces_ne_nil (scan.next state c) rest)
    have later := inductionHypothesis (scan.next state c)
    rw [cut, List.flatMap_cons] at later
    rw [pieces, cut]
    by_cases cuts : scan.cuts state c = true
    · rw [if_pos cuts, only state c cuts, splitOn, if_pos rfl, later]
      rfl
    · rw [if_neg cuts, List.modifyHead_cons, List.flatMap_cons, splitOn, splitOn, later]
      split
      · rfl
      · cases splits : splitOn separator first with
        | nil => exact absurd splits (split_on_ne_nil separator first)
        | cons piece behind => rfl

end Separators

end Scan

end SqlAccess.Lexical
