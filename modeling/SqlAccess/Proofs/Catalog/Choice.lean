import SqlAccess.Proofs.Catalog.Spelling

/-!
# The choice of an entry

A list of tables may have several entries that a request could mean: in other schemas, or with other
capitals. Main statement: which one is chosen. An entry that is spelt as the request is goes before
all that are not; among those that are left, the first one of the default schema is chosen where the
request has no schema of its own, and otherwise the first one. None is chosen only where no entry
agrees with the request in lower case.

A schema that is missing, on either side, speaks against nothing. Where there is no default schema,
the entries without a schema are those of the default.
-/

namespace SqlAccess.TableName

/-- An entry of the name that is asked for, in a schema that goes with the one asked for. -/
structure Matches (same : String → String → Prop) (requested entry : TableRef) : Prop where
  name : same entry.name requested.name
  schema : ∀ wanted found, requested.schema = some wanted → entry.schema = some found →
    same wanted found

/-- Spelt alike, up to lower case. -/
def Alike (s t : String) : Prop := Text.lowered s = Text.lowered t

/-- The entries among which the choice is made: those that are spelt as the request is, or, where
there is none, those that agree with it in lower case. -/
def Eligible (tables : List TableRef) (requested entry : TableRef) : Prop :=
  Matches Eq requested entry ∨
    (∀ other ∈ tables, ¬Matches Eq requested other) ∧ Matches Alike requested entry

/-- The first entry of a list that has a property. -/
def First (has : TableRef → Prop) (tables : List TableRef) (entry : TableRef) : Prop :=
  has entry ∧ ∃ before behind, tables = before ++ entry :: behind ∧
    ∀ other ∈ before, ¬has other

/-- What a request chooses from a list of tables. -/
structure Chooses (defaultSchema : Option String) (tables : List TableRef) (requested : TableRef)
    (choice : Option TableRef) : Prop where
  /-- Nothing is chosen exactly where no entry agrees in lower case. -/
  missing : choice = none ↔ ∀ entry ∈ tables, ¬Matches Alike requested entry
  /-- An entry of the list that is spelt alike goes before all others. -/
  exact : (∃ other ∈ tables, Matches Eq requested other) → ∀ entry, choice = some entry →
    Matches Eq requested entry
  /-- Without a schema the first entry of the default schema is meant, if there is one. -/
  favoured : requested.schema = none →
    (∃ other ∈ tables, Eligible tables requested other ∧ other.schema = defaultSchema) →
    ∀ entry, choice = some entry ↔
      First (fun other => Eligible tables requested other ∧ other.schema = defaultSchema) tables
        entry
  /-- In every other case the first entry is. -/
  foremost : ¬(requested.schema = none ∧
      ∃ other ∈ tables, Eligible tables requested other ∧ other.schema = defaultSchema) →
    ∀ entry, choice = some entry ↔ First (Eligible tables requested) tables entry

section Choice

variable {tables : List TableRef} {requested entry : TableRef} {defaultSchema : Option String}

/-- What is spelt alike agrees in lower case. -/
theorem Matches.alike (matched : Matches Eq requested entry) : Matches Alike requested entry where
  name := congrArg Text.lowered matched.name
  schema wanted found asked stored :=
    congrArg Text.lowered (matched.schema wanted found asked stored)

/-- The test of an entry, with its meaning. -/
theorem matches_iff (same : String → String → Bool) {relation : String → String → Prop}
    (means : ∀ s t, same s t = true ↔ relation s t) (requested entry : TableRef) :
    (same entry.name requested.name && schemasAgree same requested entry) = true ↔
      Matches relation requested entry := by
  have schemas : schemasAgree same requested entry = true ↔
      ∀ wanted found, requested.schema = some wanted → entry.schema = some found →
        relation wanted found := by
    unfold schemasAgree
    cases requested.schema <;> cases entry.schema <;> simp [means]
  rw [Bool.and_eq_true, means, schemas]
  exact ⟨fun ⟨name, schema⟩ => ⟨name, schema⟩,
    fun ⟨name, schema⟩ => ⟨name, schema⟩⟩

/-- The choice is made among the eligible entries, in the order of the list. -/
theorem resolve_eq_preferred (defaultSchema : Option String) (tables : List TableRef)
    (requested : TableRef) :
    ∃ test : TableRef → Bool,
      resolve defaultSchema tables requested =
        preferred defaultSchema requested (tables.filter test) ∧
      ∀ entry ∈ tables, test entry = true ↔ Eligible tables requested entry := by
  have exactly :=
    matches_iff (· == ·) (fun s t => (beq_iff_eq : (s == t) = true ↔ s = t)) requested
  have alike := matches_iff (fun s t => Text.lowered s == Text.lowered t)
    (fun s t => (beq_iff_eq : _ ↔ Alike s t)) requested
  cases none : (candidates (· == ·) tables requested).isEmpty with
  | true =>
    refine ⟨_, by rw [resolve, none, if_pos rfl, candidates], fun entry member => ?_⟩
    have noneExact : ∀ other ∈ tables, ¬Matches Eq requested other := fun other isListed => by
      rw [← exactly]
      exact List.filter_eq_nil_iff.mp (List.isEmpty_iff.mp none) other isListed
    rw [alike]
    exact ⟨fun matched => .inr ⟨noneExact, matched⟩,
      fun eligible => (eligible.resolve_left (noneExact entry member)).2⟩
  | false =>
    refine ⟨_, by rw [resolve, none, if_neg Bool.false_ne_true, candidates], fun entry _ => ?_⟩
    obtain ⟨other, isCandidate⟩ := List.exists_mem_of_ne_nil _ fun nothing =>
      Bool.false_ne_true (none.symm.trans (List.isEmpty_iff.mpr nothing))
    obtain ⟨isListed, passes⟩ := List.mem_filter.mp isCandidate
    rw [exactly]
    have exact : Matches Eq requested other := (exactly other).mp passes
    exact ⟨.inl, fun eligible =>
      eligible.resolve_right fun noneExact => noneExact.1 other isListed exact⟩

/-- What is found in a list is the first entry that passes the test. -/
theorem find?_eq_some_iff_first {test : TableRef → Bool} {has : TableRef → Prop}
    (means : ∀ entry ∈ tables, test entry = true ↔ has entry) :
    tables.find? test = some entry ↔ First has tables entry := by
  rw [List.find?_eq_some_iff_append, First]
  constructor
  · rintro ⟨passes, before, behind, rfl, failed⟩
    refine ⟨(means entry (by simp)).mp passes, before, behind, rfl, fun other earlier => ?_⟩
    rw [← means other (List.mem_append_left _ earlier)]
    simpa using failed other earlier
  · rintro ⟨holds, before, behind, rfl, failed⟩
    refine ⟨(means entry (by simp)).mpr holds, before, behind, rfl, fun other earlier => ?_⟩
    have fails := failed other earlier
    rw [← means other (List.mem_append_left _ earlier)] at fails
    simpa using fails

/-- Something is eligible exactly where something agrees in lower case. -/
theorem exists_eligible_iff :
    (∃ entry ∈ tables, Eligible tables requested entry) ↔
      ∃ entry ∈ tables, Matches Alike requested entry := by
  constructor
  · rintro ⟨entry, member, exact | ⟨_, alike⟩⟩
    · exact ⟨entry, member, exact.alike⟩
    · exact ⟨entry, member, alike⟩
  · rintro ⟨entry, member, alike⟩
    by_cases exact : ∃ other ∈ tables, Matches Eq requested other
    · obtain ⟨other, isListed, matched⟩ := exact
      exact ⟨other, isListed, .inl matched⟩
    · simp only [not_exists, not_and] at exact
      exact ⟨entry, member, .inr ⟨exact, alike⟩⟩

/-- The preferred entry of those that pass a test, found in the list itself. -/
theorem preferred_filter (test : TableRef → Bool) :
    preferred defaultSchema requested (tables.filter test) =
      (tables.find? fun entry =>
          test entry && (requested.schema.isNone && entry.schema == defaultSchema)).or
        (tables.find? test) := by
  simp only [preferred, List.find?_filter, List.head?_filter, Bool.decide_and, Bool.decide_eq_true]

/-- Nothing is preferred where there is nothing. -/
theorem preferred_eq_none_iff {entries : List TableRef} :
    preferred defaultSchema requested entries = none ↔ entries = [] := by
  constructor
  · intro none
    by_contra some
    obtain ⟨entry, found⟩ := exists_preferred some
    cases none.symm.trans found
  · rintro rfl
    rfl

section Preference

variable {test : TableRef → Bool} {has : TableRef → Prop}

/-- The test for an entry of the default schema, with its meaning. -/
theorem favours_iff (means : ∀ entry ∈ tables, test entry = true ↔ has entry) :
    ∀ entry ∈ tables,
      (test entry && (requested.schema.isNone && entry.schema == defaultSchema)) = true ↔
        requested.schema = none ∧ has entry ∧ entry.schema = defaultSchema := by
  intro entry member
  rw [Bool.and_eq_true, Bool.and_eq_true, means entry member, Option.isNone_iff_eq_none,
    beq_iff_eq, and_left_comm]

/-- Without a schema the first entry of the default schema is preferred, if there is one. -/
theorem preferred_favoured (means : ∀ entry ∈ tables, test entry = true ↔ has entry)
    (unqualified : requested.schema = none)
    (listed : ∃ other ∈ tables, has other ∧ other.schema = defaultSchema) (entry : TableRef) :
    preferred defaultSchema requested (tables.filter test) = some entry ↔
      First (fun other => has other ∧ other.schema = defaultSchema) tables entry := by
  obtain ⟨other, isListed, favoured⟩ := listed
  have passes : (test other && (requested.schema.isNone && other.schema == defaultSchema)) = true :=
    (favours_iff means other isListed).mpr ⟨unqualified, favoured⟩
  rw [preferred_filter, Option.or_of_isSome (List.find?_isSome.mpr ⟨other, isListed, passes⟩),
    find?_eq_some_iff_first (favours_iff means)]
  simp only [unqualified, true_and]

/-- In every other case the first entry is. -/
theorem preferred_foremost (means : ∀ entry ∈ tables, test entry = true ↔ has entry)
    (unfavoured : ¬(requested.schema = none ∧
      ∃ other ∈ tables, has other ∧ other.schema = defaultSchema)) (entry : TableRef) :
    preferred defaultSchema requested (tables.filter test) = some entry ↔
      First has tables entry := by
  have nothing : (tables.find? fun entry =>
      test entry && (requested.schema.isNone && entry.schema == defaultSchema)) = none := by
    refine List.find?_eq_none.mpr fun other isListed passes => unfavoured ?_
    obtain ⟨unqualified, favoured⟩ := (favours_iff means other isListed).mp passes
    exact ⟨unqualified, other, isListed, favoured⟩
  rw [preferred_filter, nothing, Option.none_or, find?_eq_some_iff_first means]

end Preference

end Choice

/-- The entry that a request is resolved to is the one that it chooses: for every list of tables,
every request and every default schema.

Proof: what is resolved is the preferred one of the entries that pass a test, and the test is
compatibility, exact where any entry is exactly compatible and folded otherwise. That nothing is
preferred means that nothing passes; the rest is what preference is made of. -/
theorem resolve_chooses (defaultSchema : Option String) (tables : List TableRef)
    (requested : TableRef) :
    Chooses defaultSchema tables requested (resolve defaultSchema tables requested) := by
  obtain ⟨test, resolved, means⟩ := resolve_eq_preferred defaultSchema tables requested
  rw [resolved]
  refine ⟨?_, ?_, preferred_favoured means, preferred_foremost means⟩
  · rw [preferred_eq_none_iff, List.filter_eq_nil_iff]
    have none : ¬(∃ entry ∈ tables, Eligible tables requested entry) ↔ _ :=
      not_congr exists_eligible_iff
    simp only [not_exists, not_and] at none
    rw [← none]
    exact forall₂_congr fun entry member => not_congr (means entry member)
  · rintro ⟨other, isListed, exact⟩ entry found
    obtain ⟨member, passes⟩ := List.mem_filter.mp (mem_of_preferred found)
    exact ((means entry member).mp passes).resolve_right fun noneExact =>
      noneExact.1 other isListed exact

end SqlAccess.TableName
