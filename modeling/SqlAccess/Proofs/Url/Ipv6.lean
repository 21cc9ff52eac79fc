import Mathlib.Algebra.GroupWithZero.Nat
import SqlAccess.Proofs.Text.Cut
import SqlAccess.Url.Ipv6

/-!
# IPv6 addresses read back

What is written of an address reads back as the address. A group is read from its digits, and a
side from the groups between its colons; the two colons that stand for zeros are found because
groups are never empty. The place of those zeros is chosen by a search that keeps a run of zeros in
hand, so what is left out is what the reader puts in again.
-/

namespace SqlAccess.Url.Ipv6

open Text

variable {groups : List Nat} {s : List Char} {n : Nat}

section Groups

/-- The number of hexadecimal digits behind a number that is already there. -/
def valueFrom (start : Option Nat) (s : List Char) : Option Nat :=
  s.foldl (fun value c => value.bind fun v => (Bytes.digitValue? c).map (16 * v + ·)) start

/-- A hexadecimal digit is below sixteen. -/
theorem digit_value?_lt {c : Char} {d : Nat} (digit : Bytes.digitValue? c = some d) : d < 16 := by
  unfold Bytes.digitValue? at digit
  grind

/-- Nothing is read behind what could not be read. -/
theorem value_from_none (s : List Char) : valueFrom none s = none := by
  induction s with
  | nil => rfl
  | cons _ _ inductionHypothesis => exact inductionHypothesis

/-- A digit is read behind the number before it. -/
theorem value_from_cons (start : Nat) (c : Char) (rest : List Char) :
    valueFrom (some start) (c :: rest) =
      valueFrom ((Bytes.digitValue? c).map (16 * start + ·)) rest := rfl

/-- Every further digit makes the bound sixteen times as large. -/
theorem value_from_lt {start value : Nat} (reads : valueFrom (some start) s = some value) :
    value < (start + 1) * 16 ^ s.length := by
  induction s generalizing start with
  | nil =>
    obtain rfl : start = value := Option.some.inj reads
    simp
  | cons c rest inductionHypothesis =>
    rw [value_from_cons] at reads
    cases digit : Bytes.digitValue? c with
    | none =>
      rw [digit, Option.map_none, value_from_none] at reads
      cases reads
    | some d =>
      rw [digit, Option.map_some] at reads
      have small := digit_value?_lt digit
      have room : (16 * start + d + 1) * 16 ^ rest.length ≤
          (start + 1) * 16 * 16 ^ rest.length := Nat.mul_le_mul_right _ (by omega)
      rw [List.length_cons, Nat.pow_succ', ← Nat.mul_assoc]
      exact Nat.lt_of_lt_of_le (inductionHypothesis reads) room

/-- A group has sixteen bits. -/
theorem group?_lt (reads : group? s = some n) : n < 65536 := by
  unfold group? at reads
  split at reads
  · cases reads
  · rename_i length
    have bound : n < (0 + 1) * 16 ^ s.length := value_from_lt reads
    have power : 16 ^ s.length ≤ 16 ^ 4 := Nat.pow_le_pow_right (by decide) (by omega)
    omega

/-- The digits of a number below sixteen. -/
theorem digit_value?_digit_char {d : Nat} (small : d < 16) :
    Bytes.digitValue? d.digitChar = some d := by
  have each : ∀ d < 16, Bytes.digitValue? (Nat.digitChar d) = some d := by decide
  exact each d small

/-- The digits of a number give the number. -/
theorem value_from_group_text (n : Nat) : valueFrom (some 0) (groupText n) = some n := by
  induction n using Nat.strongRecOn with
  | ind n inductionHypothesis =>
    by_cases single : n < 16
    · rw [groupText, Nat.toDigits_of_lt_base single]
      simp [valueFrom, digit_value?_digit_char single]
    · have last : n % 16 < 16 := Nat.mod_lt _ (by decide)
      have earlier := inductionHypothesis (n / 16) (by omega)
      rw [groupText, valueFrom] at earlier
      rw [groupText, Nat.toDigits_of_base_le (by decide) (Nat.not_lt.mp single), valueFrom,
        List.foldl_append, earlier]
      simp only [List.foldl_cons, List.foldl_nil, Option.bind_some, digit_value?_digit_char last,
        Option.map_some, Nat.div_add_mod]

/-- A group is read back. -/
theorem group?_group_text (small : n < 65536) : group? (groupText n) = some n := by
  have some : groupText n ≠ [] := Nat.toDigits_ne_nil
  have four : (groupText n).length ≤ 4 :=
    (Nat.length_toDigits_le_iff (by decide) (by decide)).mpr small
  have length : ¬((groupText n).length = 0 ∨ 4 < (groupText n).length) := by
    rw [List.length_eq_zero_iff]
    exact not_or.mpr ⟨some, Nat.not_lt.mpr four⟩
  rw [group?, if_neg length]
  exact value_from_group_text n

/-- A group is written in digits. -/
theorem digit_of_mem_group_text {c : Char} (member : c ∈ groupText n) :
    (Bytes.digitValue? c).isSome = true := by
  induction n using Nat.strongRecOn with
  | ind n inductionHypothesis =>
    rw [groupText, Nat.toDigits_eq_if (by decide)] at member
    split at member
    case isTrue single =>
      rw [List.mem_singleton.mp member, digit_value?_digit_char single]
      rfl
    case isFalse several =>
      rcases List.mem_append.mp member with earlier | last
      · exact inductionHypothesis (n / 16) (by omega) earlier
      · rw [List.mem_singleton.mp last, digit_value?_digit_char (Nat.mod_lt _ (by decide))]
        rfl

/-- No group holds a mark. -/
theorem not_mem_group_text {c : Char} (mark : Bytes.digitValue? c = none) : c ∉ groupText n := by
  intro member
  have digit := digit_of_mem_group_text member
  rw [mark] at digit
  cases digit

end Groups

section Bounds

/-- Groups of sixteen bits. -/
def Small (groups : List Nat) : Prop := ∀ group ∈ groups, group < 65536

/-- Every result of a reader that reads all pieces is that of a piece. -/
theorem exists_of_mapm {α β : Type} {read : α → Option β} {pieces : List α}
    {values : List β} (reads : pieces.mapM read = some values) :
    ∀ value ∈ values, ∃ piece, read piece = some value := by
  induction pieces generalizing values with
  | nil =>
    obtain rfl : [] = values := Option.some.inj reads
    exact fun _ impossible => absurd impossible List.not_mem_nil
  | cons piece rest inductionHypothesis =>
    simp only [List.mapM_cons, Option.bind_eq_bind, Option.pure_def, Option.bind_eq_some_iff,
      Option.some.injEq] at reads
    obtain ⟨first, found, others, later, rfl⟩ := reads
    exact List.forall_mem_cons.mpr ⟨⟨piece, found⟩, inductionHypothesis later⟩

/-- A number below 256 is read. -/
theorem octet?_lt (reads : octet? s = some n) : n < 256 := by
  have both := (Option.filter_eq_some_iff.mp reads).2
  simp only [Bool.and_eq_true, decide_eq_true_eq] at both
  exact both.1

/-- Four numbers make two groups. -/
theorem dotted?_small (reads : dotted? s = some groups) : Small groups := by
  unfold dotted? at reads
  split at reads
  case h_1 a b c d four =>
    have octets : ∀ n ∈ [a, b, c, d], n < 256 := by
      intro n member
      obtain ⟨piece, found⟩ := exists_of_mapm four n member
      exact octet?_lt found
    obtain rfl : [256 * a + b, 256 * c + d] = groups := Option.some.inj reads
    simp only [List.forall_mem_cons] at octets
    simp only [Small, List.forall_mem_cons]
    refine ⟨by omega, by omega, fun _ impossible => absurd impossible List.not_mem_nil⟩
  case h_2 => cases reads

/-- The groups between colons. -/
theorem run?_small {final : Bool} {pieces : List (List Char)}
    (reads : run? final pieces = some groups) : Small groups := by
  induction pieces generalizing groups with
  | nil =>
    obtain rfl : [] = groups := Option.some.inj reads
    exact fun _ impossible => absurd impossible List.not_mem_nil
  | cons piece rest inductionHypothesis =>
    cases rest with
    | nil =>
      rw [run?] at reads
      split at reads
      · exact dotted?_small reads
      · obtain ⟨group, found, rfl⟩ := Option.map_eq_some_iff.mp reads
        exact List.forall_mem_singleton.mpr (group?_lt found)
    | cons next pieces =>
      simp only [run?, Option.bind_eq_bind, Option.pure_def, Option.bind_eq_some_iff,
        Option.some.injEq] at reads
      obtain ⟨first, found, others, later, rfl⟩ := reads
      exact List.forall_mem_cons.mpr ⟨group?_lt found, inductionHypothesis later⟩

/-- The groups of a side. -/
theorem side?_small {final : Bool} (reads : side? final s = some groups) : Small groups := by
  unfold side? at reads
  split at reads
  · obtain rfl : [] = groups := Option.some.inj reads
    exact fun _ impossible => absurd impossible List.not_mem_nil
  · exact run?_small reads

/-- An address holds the groups that it is made from. -/
theorem of_groups?_eq_some_iff {address : Ipv6} :
    ofGroups? groups = some address ↔ address.groups = groups := by
  unfold ofGroups?
  split
  case isTrue eight =>
    rw [Option.some.injEq]
    constructor
    · rintro rfl
      rfl
    · rintro rfl
      rfl
  case isFalse other =>
    constructor
    · intro impossible
      cases impossible
    · rintro rfl
      exact absurd address.eight other

/-- An address that is read. -/
theorem parse?_small {address : Ipv6} (reads : parse? s = some address) : Small address.groups := by
  unfold parse? at reads
  split at reads
  case h_1 =>
    obtain ⟨groups, found, whole⟩ := Option.bind_eq_some_iff.mp reads
    rw [of_groups?_eq_some_iff.mp whole]
    exact run?_small found
  case h_2 left right _ =>
    simp only [Option.bind_eq_bind, Option.bind_eq_some_iff] at reads
    obtain ⟨before, leftReads, after, rightReads, whole⟩ := reads
    split at whole
    · rw [of_groups?_eq_some_iff.mp whole]
      intro group member
      rcases List.mem_append.mp member with inFront | behind
      · rcases List.mem_append.mp inFront with own | zero
        · exact side?_small leftReads group own
        · rw [List.eq_of_mem_replicate zero]
          decide
      · exact side?_small rightReads group behind
    · cases whole

end Bounds

section Sides

/-- Groups with colons between them. -/
def colonized (groups : List Nat) : List Char := joinWith [':'] (groups.map groupText)

/-- Groups hold no colon. -/
theorem colon_free : ∀ piece ∈ groups.map groupText, ':' ∉ piece := by
  intro piece member
  obtain ⟨group, _, rfl⟩ := List.mem_map.mp member
  exact not_mem_group_text (by decide)

/-- Groups that are written one by one are read. -/
theorem run?_group_text (small : Small groups) (final : Bool) :
    run? final (groups.map groupText) = some groups := by
  induction groups with
  | nil => rfl
  | cons group rest inductionHypothesis =>
    obtain ⟨own, others⟩ := List.forall_mem_cons.mp small
    cases rest with
    | nil =>
      have dotless : (groupText group).contains '.' = false := by
        rw [List.contains_eq_mem, decide_eq_false_iff_not]
        exact not_mem_group_text (by decide)
      simp only [List.map_cons, List.map_nil, run?, dotless, Bool.and_false, Bool.false_eq_true,
        if_false, group?_group_text own, Option.map_some]
    | cons next groups =>
      have later := inductionHypothesis others
      rw [List.map_cons] at later
      simp [run?, group?_group_text own, later]

/-- Groups between colons are read. -/
theorem run?_colonized (small : Small groups) (some : groups ≠ []) (final : Bool) :
    run? final (splitOn ':' (colonized groups)) = Option.some groups := by
  rw [colonized, split_on_join_with (by simpa using some) colon_free, run?_group_text small]

/-- Groups begin with a digit. -/
theorem exists_colonized_cons (group : Nat) (groups : List Nat) :
    ∃ c rest, colonized (group :: groups) = c :: rest ∧ c ≠ ':' := by
  obtain ⟨c, digits, own⟩ :=
    List.exists_cons_of_ne_nil (show groupText group ≠ [] from Nat.toDigits_ne_nil)
  obtain ⟨behind, whole, _⟩ :=
    exists_join_with_cons ':' (groupText group) (groups.map groupText)
  refine ⟨c, digits ++ behind, ?_, ?_⟩
  · rw [colonized, List.map_cons, whole, own, List.cons_append]
  · have free : ':' ∉ groupText group := not_mem_group_text (by decide)
    rw [own] at free
    exact Ne.symm (List.ne_of_not_mem_cons free)

/-- A side is read. -/
theorem side?_colonized (small : Small groups) (final : Bool) :
    side? final (colonized groups) = some groups := by
  by_cases none : groups = []
  · subst none
    rfl
  · obtain ⟨group, others, rfl⟩ := List.exists_cons_of_ne_nil none
    obtain ⟨c, rest, whole, _⟩ := exists_colonized_cons group others
    rw [side?, if_neg (by simp [whole]), run?_colonized small none]

end Sides

section Gap

/-- Groups hold no two colons in a row, and they do not end in a colon. -/
theorem cut_at_part_colonized (groups : List Nat) (rest : List Char) :
    cutAtPart "::".toList (colonized groups ++ rest) =
      (cutAtPart "::".toList rest).map fun halves => (colonized groups ++ halves.1, halves.2) := by
  have colonFree (group : Nat) : ':' ∉ groupText group := not_mem_group_text (by decide)
  induction groups with
  | nil => exact Option.map_id'.symm
  | cons group others inductionHypothesis =>
    cases others with
    | nil =>
      have single : colonized [group] = groupText group := List.append_nil _
      rw [single]
      exact cut_at_part_of_not_mem (colonFree group) rest
    | cons next groups =>
      have whole : colonized (group :: next :: groups) =
          groupText group ++ ':' :: colonized (next :: groups) := by
        rw [colonized, List.map_cons, List.map_cons, join_with_cons_cons, List.append_assoc]
        rfl
      obtain ⟨c, text, begins, other⟩ := exists_colonized_cons next groups
      have missing :
          dropStart? "::".toList (':' :: (colonized (next :: groups) ++ rest)) = none := by
        simp [begins, dropStart?, Ne.symm other]
      rw [whole, List.append_assoc, List.cons_append]
      have skip := @cut_at_part_of_not_mem ':' [':'] _ (colonFree group)
        (':' :: (colonized (next :: groups) ++ rest))
      rw [show "::".toList = [':', ':'] from rfl] at missing inductionHypothesis ⊢
      rw [skip, cutAtPart, missing, inductionHypothesis]
      simp [Option.map_map, Function.comp_def]

/-- Zeros that a list starts with can be taken off. -/
theorem eq_replicate_append {length : Nat} (fits : length ≤ zeros groups) :
    groups = List.replicate length 0 ++ groups.drop length := by
  induction length generalizing groups with
  | zero => rfl
  | succ length inductionHypothesis =>
    cases groups with
    | nil => simp [zeros] at fits
    | cons group rest =>
      by_cases zero : group = 0
      · subst zero
        have fewer : length ≤ zeros rest := by simpa [zeros] using fits
        rw [List.replicate_succ, List.cons_append, List.drop_succ_cons,
          ← inductionHypothesis fewer]
      · simp [zeros, zero] at fits

/-- The run in hand is never longer than the zeros that start at its place. -/
theorem longest_zeros_le (groups : List Nat) :
    (longestZeros groups).2 ≤ zeros (groups.drop (longestZeros groups).1) := by
  refine List.foldlRecOn _ _
    (motive := fun best : Nat × Nat => best.2 ≤ zeros (groups.drop best.1))
    (Nat.zero_le _) fun best kept place _ => ?_
  dsimp only
  split
  · exact Nat.le_refl _
  · exact kept

/-- The groups around the zeros that are left out. -/
theorem groups_eq (groups : List Nat) :
    groups = groups.take (longestZeros groups).1 ++
      List.replicate (longestZeros groups).2 0 ++
      groups.drop ((longestZeros groups).1 + (longestZeros groups).2) := by
  rw [List.append_assoc, ← List.drop_drop, ← eq_replicate_append (longest_zeros_le groups),
    List.take_append_drop]

end Gap

/-- Groups are written in digits and colons. -/
theorem mem_colonized {c : Char} (member : c ∈ colonized groups) :
    c = ':' ∨ (Bytes.digitValue? c).isSome = true := by
  rcases mem_join_with member with colon | ⟨piece, listed, inside⟩
  · exact Or.inl (List.mem_singleton.mp colon)
  · obtain ⟨group, _, rfl⟩ := List.mem_map.mp listed
    exact Or.inr (digit_of_mem_group_text inside)

/-- So are addresses. -/
theorem mem_text {address : Ipv6} {c : Char} (member : c ∈ address.text) :
    c = ':' ∨ (Bytes.digitValue? c).isSome = true := by
  unfold text at member
  generalize longestZeros address.groups = gap at member
  obtain ⟨place, length⟩ := gap
  dsimp only at member
  split at member
  · exact mem_colonized member
  · rcases List.mem_append.mp member with inFront | right
    · rcases List.mem_append.mp inFront with left | colons
      · exact mem_colonized left
      · exact Or.inl (by simpa using colons)
    · exact mem_colonized right

/-- Eight groups between colons read back as the address. -/
theorem parse?_colonized {address : Ipv6} (small : Small address.groups) :
    parse? (colonized address.groups) = some address := by
  have nonempty : address.groups ≠ [] := by
    intro none
    have eight := address.eight
    rw [none] at eight
    cases eight
  have whole := cut_at_part_colonized address.groups []
  rw [List.append_nil] at whole
  have none : cutAtPart "::".toList (colonized address.groups) = none := whole
  rw [parse?, none]
  simp only [run?_colonized small nonempty, Option.bind_some]
  exact of_groups?_eq_some_iff.mpr rfl

/-- Two colons read back as the zeros that they stand for. -/
theorem parse?_gap {address : Ipv6} {left right : List Nat} {length : Nat}
    (small : Small address.groups) (long : 1 < length)
    (around : address.groups = left ++ List.replicate length 0 ++ right) :
    parse? (colonized left ++ "::".toList ++ colonized right) = some address := by
  have count := congrArg List.length around
  rw [address.eight, List.length_append, List.length_append, List.length_replicate] at count
  rw [around] at small
  have leftSmall : Small left := fun group member =>
    small group (List.mem_append_left _ (List.mem_append_left _ member))
  have rightSmall : Small right := fun group member =>
    small group (List.mem_append_right _ member)
  have cut : cutAtPart "::".toList (colonized left ++ "::".toList ++ colonized right) =
      some (colonized left, colonized right) := by
    rw [List.append_assoc, cut_at_part_colonized, show "::".toList = [':', ':'] from rfl,
      cut_at_part_start, Option.map_some, List.append_nil]
  rw [parse?, cut]
  simp only [side?_colonized leftSmall, side?_colonized rightSmall, Option.bind_eq_bind,
    Option.bind_some]
  rw [if_pos (by omega)]
  refine of_groups?_eq_some_iff.mpr ?_
  rw [around, show 8 - (left.length + right.length) = length by omega]

/-- What is written of an address reads back. -/
theorem parse?_text {address : Ipv6} (small : Small address.groups) :
    parse? address.text = some address := by
  have around := groups_eq address.groups
  unfold text
  generalize longestZeros address.groups = gap at around ⊢
  obtain ⟨place, length⟩ := gap
  dsimp only at around ⊢
  split
  case isTrue => exact parse?_colonized small
  case isFalse long => exact parse?_gap small (by omega) around

end SqlAccess.Url.Ipv6
