import SqlAccess.ConnectionString.DatabaseName
import SqlAccess.Proofs.ConnectionString.NameCharacters
import SqlAccess.Proofs.Text.Cut
import SqlAccess.Proofs.Text.Percent
import SqlAccess.Url.Path

/-!
# The path of a database name

A path of one segment is resolved to itself, unless the segment is made of dots. A database name
starts with a letter or an underscore, so its encoded form starts with one, or with the digits of a
byte beyond ASCII; neither begins a dot. So the path of a name is its encoded form behind a slash,
and reading that path again changes nothing.
-/

namespace SqlAccess.Url.Path

open Text

variable {c : Char} {s segment name : List Char}

/-- A segment that is kept as it is: neither one dot nor two. -/
def Ordinary (segment : List Char) : Prop :=
  isSingleDot segment = false ∧ isDoubleDot segment = false

/-- A segment whose first character, encoded dots read, is no dot is kept. -/
theorem ordinary_of_dots {rest : List Char} (first : dots segment = c :: rest) (mark : c ≠ '.') :
    Ordinary segment := by
  simp [Ordinary, isSingleDot, isDoubleDot, first, mark]

/-- A character other than a dot or a percent sign begins an ordinary segment. -/
theorem ordinary_cons (mark : c ≠ '.') (plain : c ≠ '%') (rest : List Char) :
    Ordinary (c :: rest) := by
  refine ordinary_of_dots (?_ : dots (c :: rest) = c :: dots rest) mark
  rw [dots]
  · exact fun _ encoded => absurd encoded plain
  · exact fun _ encoded => absurd encoded plain

/-- So does an encoded byte beyond ASCII. -/
theorem ordinary_encode_byte {b : UInt8} (high : 0x80 ≤ b.toNat) (rest : List Char) :
    Ordinary (Percent.encodeByte b ++ rest) := by
  have each : ∀ d < 16, 8 ≤ d → Bytes.digit 'A' d ≠ '2' := by decide
  have digit : Bytes.digit 'A' (b.toNat / 16) ≠ '2' :=
    each _ (Nat.div_lt_of_lt_mul b.toNat_lt) (by omega)
  refine ordinary_of_dots (?_ : dots (Percent.encodeByte b ++ rest) =
    '%' :: dots ((Percent.encodeByte b).tail ++ rest)) (by decide)
  simp only [Percent.encodeByte, Bytes.hexUpper, Bytes.hexWith, List.cons_append, List.tail_cons]
  rw [dots]
  · rintro _ ⟨⟩ same
    exact digit (List.cons.inj same).1
  · rintro _ ⟨⟩ same
    exact digit (List.cons.inj same).1

/-- The marks of encoding are not encoded in a path. -/
theorem escaped_of_mem_marks : ∀ c ∈ Percent.marks, escaped c = false :=
  forall_mem_of_all (by decide)

section Resolved

/-- Ordinary segments are kept, in order. -/
theorem resolve_of_ordinary {pieces : List (List Char)}
    (ordinary : ∀ piece ∈ pieces, Ordinary piece) (kept : List (List Char)) :
    resolve kept pieces = kept.reverse ++ pieces := by
  induction pieces generalizing kept with
  | nil => simp [resolve]
  | cons piece rest inductionHypothesis =>
    obtain ⟨⟨noSingle, noDouble⟩, others⟩ := List.forall_mem_cons.mp ordinary
    simp [resolve, noSingle, noDouble, inductionHypothesis others]

/-- What is kept after a segment. -/
def keptAfter (kept : List (List Char)) (segment : List Char) : List (List Char) :=
  if isDoubleDot segment then shortened kept
  else if isSingleDot segment then kept
  else segment :: kept

/-- A segment resolved before the others; dots at the end leave an empty segment. -/
theorem resolve_cons (kept : List (List Char)) (segment : List Char) (rest : List (List Char)) :
    resolve kept (segment :: rest) =
      if rest.isEmpty && (isDoubleDot segment || isSingleDot segment) then
        ([] :: keptAfter kept segment).reverse
      else resolve (keptAfter kept segment) rest := rfl

/-- A segment that is kept was there before, or is an ordinary one that is added. -/
theorem of_mem_kept_after {kept : List (List Char)} {piece : List Char}
    (member : piece ∈ keptAfter kept segment) :
    piece ∈ kept ∨ (piece = segment ∧ Ordinary segment) := by
  unfold keptAfter at member
  split at member
  · unfold shortened at member
    grind
  split at member
  · exact Or.inl member
  · rename_i noDouble noSingle
    rcases List.mem_cons.mp member with rfl | before
    · exact Or.inr ⟨rfl, Bool.eq_false_iff.mpr noSingle, Bool.eq_false_iff.mpr noDouble⟩
    · exact Or.inl before

/-- The empty segment is ordinary. -/
theorem ordinary_nil : Ordinary [] := ⟨rfl, rfl⟩

/-- What resolving leaves was kept, is an ordinary segment of the path, or is empty. -/
theorem of_mem_resolve {kept pieces : List (List Char)} {piece : List Char}
    (member : piece ∈ resolve kept pieces) :
    piece ∈ kept ∨ ((piece ∈ pieces ∨ piece = []) ∧ Ordinary piece) := by
  induction pieces generalizing kept with
  | nil => exact Or.inl (List.mem_reverse.mp member)
  | cons segment rest inductionHypothesis =>
    have added (found : piece ∈ keptAfter kept segment) :
        piece ∈ kept ∨ ((piece ∈ segment :: rest ∨ piece = []) ∧ Ordinary piece) := by
      rcases of_mem_kept_after found with before | ⟨rfl, ordinary⟩
      · exact Or.inl before
      · exact Or.inr ⟨Or.inl List.mem_cons_self, ordinary⟩
    rw [resolve_cons] at member
    split at member
    · rcases List.mem_cons.mp (List.mem_reverse.mp member) with rfl | found
      · exact Or.inr ⟨Or.inr rfl, ordinary_nil⟩
      · exact added found
    · rcases inductionHypothesis member with found | ⟨later, ordinary⟩
      · exact added found
      · exact Or.inr ⟨later.imp_left (List.mem_cons_of_mem segment), ordinary⟩

/-- Something is left of every path. -/
theorem resolve_ne_nil {pieces : List (List Char)} (some : pieces ≠ [])
    (kept : List (List Char)) :
    resolve kept pieces ≠ [] := by
  induction pieces generalizing kept with
  | nil => exact absurd rfl some
  | cons segment rest inductionHypothesis =>
    rw [resolve_cons]
    cases rest with
    | cons next others => exact inductionHypothesis (List.cons_ne_nil next others) _
    | nil =>
      split
      · simp
      · rename_i noDots
        simp only [List.isEmpty_nil, Bool.true_and, Bool.or_eq_true, not_or, Bool.not_eq_true]
          at noDots
        simp [resolve, keptAfter, noDots.1, noDots.2]

/-- The segments that are left of a path. -/
def resolved (s : List Char) : List (List Char) :=
  resolve [] ((segments s).map (Percent.encode escaped))

/-- A path is written from the segments that are left of it. -/
theorem normalized_eq (some : s ≠ []) : normalized s = '/' :: joinWith ['/'] (resolved s) := by
  have present : s.isEmpty = false := by simpa using some
  rw [normalized, present]
  rfl

/-- A segment that is left is ordinary, holds no slash, and nothing of it is to be encoded. -/
theorem of_mem_resolved {piece : List Char} (member : piece ∈ resolved s) :
    Ordinary piece ∧ '/' ∉ piece ∧ ∀ c ∈ piece, escaped c = false := by
  rcases of_mem_resolve member with impossible | ⟨written | rfl, ordinary⟩
  · exact absurd impossible List.not_mem_nil
  · obtain ⟨own, listed, rfl⟩ := List.mem_map.mp written
    refine ⟨ordinary, Percent.not_mem_encode (by decide) ?_,
      Percent.plain_encode escaped_of_mem_marks⟩
    exact not_mem_of_mem_split_on '/' _ own listed
  · exact ⟨ordinary, List.not_mem_nil, fun _ impossible => absurd impossible List.not_mem_nil⟩

/-- A path that is written is resolved already. -/
theorem normalized_normalized (s : List Char) : normalized (normalized s) = normalized s := by
  by_cases empty : s = []
  · subst empty
    rfl
  · have some : resolved s ≠ [] := resolve_ne_nil (by simp [segments, split_on_ne_nil]) []
    have pieces : segments ('/' :: joinWith ['/'] (resolved s)) = resolved s :=
      split_on_join_with some fun piece member => (of_mem_resolved member).2.1
    have stays : (resolved s).map (Percent.encode escaped) = resolved s :=
      (List.map_congr_left fun piece member =>
        Percent.encode_of_plain (of_mem_resolved member).2.2).trans (List.map_id _)
    rw [normalized_eq empty, normalized_eq (List.cons_ne_nil _ _), resolved, pieces, stays,
      resolve_of_ordinary fun piece member => (of_mem_resolved member).1]
    rfl

/-- In a written path nothing is to be encoded. -/
theorem plain_normalized (s : List Char) : ∀ c ∈ normalized s, escaped c = false := by
  intro c member
  by_cases empty : s = []
  · subst empty
    cases member
  · rw [normalized_eq empty] at member
    rcases List.mem_cons.mp member with rfl | inside
    · rfl
    · rcases mem_join_with inside with slash | ⟨piece, left, found⟩
      · rw [List.mem_singleton.mp slash]
        rfl
      · exact (of_mem_resolved left).2.2 c found

/-- A written path begins with a slash. -/
theorem normalized_head (s : List Char) : ∀ c ∈ (normalized s).head?, c = '/' := by
  by_cases empty : s = []
  · subst empty
    exact fun _ impossible => nomatch impossible
  · rw [normalized_eq empty]
    exact fun c first => (Option.some.inj first).symm

end Resolved

section Names

/-- The encoded form of a database name is an ordinary segment. -/
theorem ordinary_of_is_valid (valid : DatabaseName.isValid name = true) :
    Ordinary (Percent.encode escaped name) := by
  cases name with
  | nil => cases valid
  | cons first rest =>
    simp only [DatabaseName.isValid, Bool.and_eq_true] at valid
    by_cases ascii : first.toNat < 0x80
    · have each : ∀ n < 0x80, DatabaseName.startsName (Char.ofNat n) = true →
          escaped (Char.ofNat n) = false ∧ Char.ofNat n ≠ '.' ∧ Char.ofNat n ≠ '%' := by
        decide +kernel
      obtain ⟨plain, noDot, noPercent⟩ :=
        each first.toNat ascii (by rw [Char.ofNat_toNat]; exact valid.1.2)
      rw [Char.ofNat_toNat] at plain noDot noPercent
      rw [Percent.encode_cons, plain]
      exact ordinary_cons noDot noPercent _
    · have foreign : escaped first = true := by
        simp [escaped, isControlOrForeign, show 0x7E < first.toNat by omega]
      obtain ⟨b, others, bytes⟩ := List.exists_cons_of_ne_nil (Utf8.encode_char_ne_nil first)
      rw [Percent.encode_cons, if_pos foreign, bytes, List.flatMap_cons, List.append_assoc]
      refine ordinary_encode_byte (Percent.high_of_mem_encode_char (Nat.not_lt.mp ascii) ?_) _
      rw [bytes]
      exact List.mem_cons_self

/-- The path of a database name is its encoded form behind a slash. -/
theorem normalized_of_is_valid (valid : DatabaseName.isValid name = true) :
    normalized ('/' :: name) = '/' :: Percent.encode escaped name := by
  have slashless : '/' ∉ name := DatabaseName.not_mem_of_is_valid valid (by decide)
  have single : resolved ('/' :: name) = [Percent.encode escaped name] := by
    rw [resolved, segments, split_on_of_not_mem slashless, List.map_cons, List.map_nil,
      resolve_of_ordinary (List.forall_mem_singleton.mpr (ordinary_of_is_valid valid))]
    rfl
  rw [normalized_eq (List.cons_ne_nil _ _), single]
  simp [joinWith]

end Names

end SqlAccess.Url.Path
