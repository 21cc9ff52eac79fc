import Mathlib.Data.List.TakeWhile
import SqlAccess.Proofs.ConnectionString.UrlDatabase

/-!
# Names in the path of a URL

A name that is written as the path of a URL, with percent signs and everything that a path does not
hold encoded, is a path of one segment that reading leaves as it is, whatever the name holds: a
slash is the only character that a segment cannot hold, and one or two dots are the only segments
that are resolved away. What is read from that path as the database is another matter, because it is
read as a value of a query: up to the first ampersand, and with a space for each plus. Main
statement: this is what is read of every name, and so the name itself exactly where it holds neither
of the two signs.
-/

namespace SqlAccess

open Text

namespace Url.Path

variable {c : Char} {name : List Char}

/-- The characters of a name that are encoded: those that are in a path, and the percent sign. -/
def escapedInName (c : Char) : Bool := c = '%' || escaped c

/-- A name as a segment of a path. -/
def nameSegment (name : List Char) : List Char := Percent.encode escapedInName name

/-- Percent signs are encoded, so a name is read back from its segment. -/
theorem decode_name_segment (name : List Char) :
    Percent.decode (Utf8.encode (nameSegment name)) = Utf8.encode name :=
  Percent.decode_encode escapedInName fun _ => rfl

/-- Names differ in their segments. -/
theorem name_segment_inj {first second : List Char} :
    nameSegment first = nameSegment second ↔ first = second := by
  constructor
  · intro same
    have bytes := congrArg (fun s => Utf8.decodeLenient (Percent.decode (Utf8.encode s))) same
    simpa only [decode_name_segment, Utf8.decode_lenient_encode] using bytes
  · exact congrArg nameSegment

/-- Nothing in the segment of a name is to be encoded in a path. -/
theorem plain_name_segment (name : List Char) : ∀ c ∈ nameSegment name, escaped c = false := by
  intro c member
  rcases Percent.mem_encode member with ⟨_, plain⟩ | mark
  · exact (Bool.or_eq_false_iff.mp plain).2
  · exact escaped_of_mem_marks c mark

section Dots

/-- Behind a character other than the percent sign dots are looked for anew. -/
theorem dots_cons (other : c ≠ '%') (rest : List Char) : dots (c :: rest) = c :: dots rest := by
  rw [dots]
  · exact fun _ encoded => absurd encoded other
  · exact fun _ encoded => absurd encoded other

/-- Only the byte of a dot is read as one. -/
theorem dots_encode_byte {b : UInt8} (other : b ≠ 0x2E) (rest : List Char) :
    dots (Percent.encodeByte b ++ rest) = Percent.encodeByte b ++ dots rest := by
  have digits : ∀ d < 16, Bytes.digit 'A' d ≠ '%' ∧ Bytes.digit 'A' d ≠ 'e' ∧
      (Bytes.digit 'A' d = '2' → d = 2) ∧ (Bytes.digit 'A' d = 'E' → d = 14) := by decide
  obtain ⟨highPlain, _, highTwo, _⟩ :=
    digits (b.toNat / 16) (Nat.div_lt_of_lt_mul b.toNat_lt)
  obtain ⟨lowPlain, lowSmall, _, lowFourteen⟩ :=
    digits (b.toNat % 16) (Nat.mod_lt _ (by decide))
  have number : b.toNat ≠ 0x2E := fun same => other (UInt8.toNat_inj.mp same)
  have form : Percent.encodeByte b =
      ['%', Bytes.digit 'A' (b.toNat / 16), Bytes.digit 'A' (b.toNat % 16)] := by
    simp [Percent.encodeByte, Bytes.hexUpper, Bytes.hexWith]
  rw [form, List.cons_append, List.cons_append, List.cons_append, List.nil_append, dots,
    dots_cons highPlain, dots_cons lowPlain, List.cons_append, List.cons_append, List.cons_append,
    List.nil_append]
  · rintro _ ⟨⟩ encoded
    exact lowSmall (List.cons.inj (List.cons.inj encoded).2).1
  · rintro _ ⟨⟩ encoded
    have high := highTwo (List.cons.inj encoded).1
    have low := lowFourteen (List.cons.inj (List.cons.inj encoded).2).1
    omega

/-- Nor are the bytes of a character that is no dot. -/
theorem dots_encode_bytes {bytes : List UInt8} (dotless : 0x2E ∉ bytes) (rest : List Char) :
    dots (bytes.flatMap Percent.encodeByte ++ rest) =
      bytes.flatMap Percent.encodeByte ++ dots rest := by
  induction bytes with
  | nil => rfl
  | cons b others inductionHypothesis =>
    rw [List.flatMap_cons, List.append_assoc,
      dots_encode_byte (Ne.symm (List.ne_of_not_mem_cons dotless)),
      inductionHypothesis (List.not_mem_of_not_mem_cons dotless), List.append_assoc]

/-- The segment of a name has no encoded dots in it. -/
theorem dots_name_segment (name : List Char) : dots (nameSegment name) = nameSegment name := by
  induction name with
  | nil => rfl
  | cons c rest inductionHypothesis =>
    unfold nameSegment at inductionHypothesis ⊢
    rw [Percent.encode_cons]
    split
    · rename_i encoded
      -- a dot stands for itself, so no other character has its byte
      have other : c ≠ '.' := by
        rintro rfl
        exact absurd encoded (by decide)
      have dotless : (0x2E : UInt8) ∉ Utf8.encodeChar c :=
        Percent.not_mem_encode_char (by decide) fun same => other (Char.toNat_inj.mp same)
      rw [dots_encode_bytes dotless, inductionHypothesis]
    · rename_i plain
      have other : c ≠ '%' := by
        rintro rfl
        exact plain rfl
      rw [List.singleton_append, dots_cons other, inductionHypothesis]

/-- The segment of a name is kept as it is, unless the name is one dot or two. -/
theorem ordinary_name_segment (single : name ≠ ['.']) (double : name ≠ ['.', '.']) :
    Ordinary (nameSegment name) := by
  have oneDot : nameSegment ['.'] = ['.'] := by decide
  have twoDots : nameSegment ['.', '.'] = ['.', '.'] := by decide
  rw [Ordinary, isSingleDot, isDoubleDot, dots_name_segment, beq_eq_false_iff_ne,
    beq_eq_false_iff_ne]
  refine ⟨fun same => ?_, fun same => ?_⟩
  · exact single (name_segment_inj.mp (same.trans oneDot.symm))
  · exact double (name_segment_inj.mp (same.trans twoDots.symm))

/-- The path of a name is its segment behind a slash. -/
theorem normalized_name_segment (slashless : '/' ∉ name) (single : name ≠ ['.'])
    (double : name ≠ ['.', '.']) :
    normalized ('/' :: nameSegment name) = '/' :: nameSegment name := by
  have whole : '/' ∉ nameSegment name := Percent.not_mem_encode (by decide) slashless
  have alone : resolved ('/' :: nameSegment name) = [nameSegment name] := by
    rw [resolved, segments, split_on_of_not_mem whole, List.map_singleton,
      Percent.encode_of_plain (plain_name_segment name),
      resolve_of_ordinary (List.forall_mem_singleton.mpr (ordinary_name_segment single double))]
    rfl
  rw [normalized_eq (List.cons_ne_nil _ _), alone]
  simp [joinWith]

end Dots

end Url.Path

namespace ConnectionString

variable {name : List Char}

/-- The space for which a plus stands in a value of a query. -/
def spaced (c : Char) : Char := if c = '+' then ' ' else c

/-- What the segment of a name is read as: the name up to its first ampersand, with a space for each
plus. -/
def readAsValue (name : List Char) : List Char := (name.takeWhile (· ≠ '&')).map spaced

/-- What stands before the first ampersand. -/
theorem take_while_of_cut_at :
    name.takeWhile (· ≠ '&') =
      match cutAt '&' name with
      | some (before, _) => before
      | none => name := by
  have passes {s : List Char} (absent : '&' ∉ s) : ∀ c ∈ s, decide (c ≠ '&') = true :=
    fun c member => by simpa using fun same : c = '&' => absent (same ▸ member)
  cases cut : cutAt '&' name with
  | none => exact List.takeWhile_eq_self_iff.mpr (passes (cut_at_eq_none_iff.mp cut))
  | some halves =>
    obtain ⟨before, after⟩ := halves
    obtain ⟨rfl, absent⟩ := cut_at_eq_some_iff.mp cut
    exact (take_while_drop_while_append (passes absent)
      (fun c first => by simp [← Option.some.inj first])).1

/-- A name is read as itself exactly when it holds neither of the two signs. -/
theorem read_as_value_eq_self_iff : readAsValue name = name ↔ '+' ∉ name ∧ '&' ∉ name := by
  constructor
  · intro same
    have plusless : '+' ∉ readAsValue name := by
      intro member
      obtain ⟨c, _, spacedPlus⟩ := List.mem_map.mp member
      unfold spaced at spacedPlus
      split at spacedPlus
      · cases spacedPlus
      · contradiction
    have whole : name.takeWhile (· ≠ '&') = name := by
      refine List.IsPrefix.eq_of_length (List.takeWhile_prefix _) ?_
      rw [← List.length_map (f := spaced)]
      exact congrArg List.length same
    refine ⟨same ▸ plusless, fun member => ?_⟩
    simpa using List.takeWhile_eq_self_iff.mp whole '&' member
  · rintro ⟨plusless, ampersandless⟩
    rw [readAsValue, take_while_of_cut_at, cut_at_eq_none_iff.mpr ampersandless]
    refine (List.map_congr_left fun c member => if_neg ?_).trans (List.map_id _)
    exact fun same => plusless (same ▸ member)

/-- The segment of a name, read as a value without an ampersand. -/
theorem decode_name_segment (name : List Char) :
    Url.Form.decode (Url.Path.nameSegment name) = name.map spaced := by
  have forms (c : Char) (rest : List UInt8) :
      Percent.decode (Utf8.encode ((Percent.encode Url.Path.escapedInName [c]).map spaced) ++
        rest) = Utf8.encodeChar (spaced c) ++ Percent.decode rest := by
    by_cases plus : c = '+'
    · subst plus
      exact Percent.decode_plain (c := ' ') rest (by decide)
    · have kept : (Percent.encode Url.Path.escapedInName [c]).map spaced =
          Percent.encode Url.Path.escapedInName [c] := by
        refine (List.map_congr_left fun d member => if_neg ?_).trans (List.map_id _)
        rintro rfl
        exact Percent.not_mem_encode (by decide) (by simpa using Ne.symm plus) member
      rw [kept, spaced, if_neg plus]
      exact Percent.decode_encoded rest fun same => by simp [Url.Path.escapedInName, same]
  have whole : (Url.Path.nameSegment name).map spaced =
      name.flatMap fun c => (Percent.encode Url.Path.escapedInName [c]).map spaced := by
    rw [Url.Path.nameSegment, Percent.encode_eq_flat_map, List.map_flatMap]
  have read : Url.Form.decode (Url.Path.nameSegment name) =
      Utf8.decodeLenient (Percent.decode (Utf8.encode ((Url.Path.nameSegment name).map spaced))) :=
    rfl
  rw [read, whole, Percent.decode_flat_map fun c _ rest => forms c rest, Utf8.decode_lenient_encode]

/-- The segment of a name is cut where the name is cut at an ampersand. -/
theorem cut_at_name_segment (name : List Char) :
    cutAt '&' (Url.Path.nameSegment name) =
      (cutAt '&' name).map fun halves =>
        (Url.Path.nameSegment halves.1, Url.Path.nameSegment halves.2) := by
  have free {s : List Char} (absent : '&' ∉ s) : '&' ∉ Url.Path.nameSegment s :=
    Percent.not_mem_encode (by decide) absent
  cases cut : cutAt '&' name with
  | none => exact cut_at_eq_none_iff.mpr (free (cut_at_eq_none_iff.mp cut))
  | some halves =>
    obtain ⟨before, after⟩ := halves
    obtain ⟨rfl, absent⟩ := cut_at_eq_some_iff.mp cut
    have form : Url.Path.nameSegment (before ++ '&' :: after) =
        Url.Path.nameSegment before ++ '&' :: Url.Path.nameSegment after := by
      rw [Url.Path.nameSegment, Percent.encode, List.flatMap_append, List.flatMap_cons]
      rfl
    rw [form]
    exact cut_at_append (free absent) _

section Reading

variable {url : Url} {path : List Char}

/-- The database of a URL with the segment of a name for its path. -/
theorem url_database?_name_segment (present : name ≠ []) (slashless : '/' ∉ name)
    (path : url.path = '/' :: Url.Path.nameSegment name) :
    urlDatabase? url = some (readAsValue name) := by
  have first (c : Char) (begins : c ∈ (Url.Path.nameSegment name).head?) :
      decide (c = '/') = false := by
    rw [decide_eq_false_iff_not]
    rintro rfl
    exact Percent.not_mem_encode (by decide) slashless (List.mem_of_mem_head? begins)
  have behind : url.path.dropWhile (· = '/') = Url.Path.nameSegment name := by
    rw [path]
    exact (take_while_drop_while_append (p := (· = '/')) (s := ['/']) (by simp) first).2
  have some : (Url.Path.nameSegment name).isEmpty = false :=
    List.isEmpty_eq_false_iff.mpr fun none => present (Percent.encode_eq_nil_iff.mp none)
  simp only [urlDatabase?, behind, some, cut_at_name_segment, readAsValue, take_while_of_cut_at]
  cases cutAt '&' name with
  | none => exact congrArg Option.some (decode_name_segment name)
  | some halves => exact congrArg Option.some (decode_name_segment halves.1)

/-- The URL of a host and a path. -/
def hosted (path : List Char) : Url where
  scheme := "postgres".toList
  credentials := []
  host := "host".toList
  port := none
  path := path
  query := none
  fragment := none

/-- The written form of a host and a path. -/
theorem text_hosted (path : List Char) : (hosted path).text = "postgres://host".toList ++ path := by
  have origin : (hosted path).origin = "postgres://host".toList := rfl
  rw [Url.text, origin]
  exact List.append_nil _

/-- A host and a resolved path are read as they are written. -/
theorem parse?_hosted (resolved : Url.Path.normalized path = path) :
    let s := "postgres://host".toList ++ path
    trim s = s ∧ isUrl s = true ∧ Url.parse? s = .ok (hosted path) := by
  intro s
  have settled : (hosted path).Settled := ⟨⟨[], rfl⟩, ⟨"host".toList, rfl⟩, nofun, nofun,
    ⟨path, resolved.symm⟩, ⟨none, rfl⟩, ⟨none, rfl⟩⟩
  have lower : ∀ c ∈ (hosted path).scheme, c.isLower = true :=
    forall_mem_of_all (s := "postgres".toList) (by decide)
  have written : s = (hosted path).text := (text_hosted path).symm
  rw [written]
  exact ⟨trim_of_visible (settled.visible_of_mem_text fun c member =>
      (Url.visible_of_is_lower (lower c member)).1),
    is_url_text ⟨"postgres://", by decide, rfl⟩ lower, settled.parse?_text lower⟩

/-- What a server reads of a name that is written as the path of a URL: the name up to its first
ampersand, with a space for each plus. So the name is read back exactly where it holds neither of
the two signs.

Proof: the segment is no dot segment, so the path of the URL is the segment itself. It is decoded as
the value of a form, and what that reader makes of an encoded name is known character by
character. -/
theorem database_name?_name_segment (dialect : Dialect) (name : String)
    (server : dialect ≠ .sqlite) (present : name ≠ "") (slashless : '/' ∉ name.toList)
    (undotted : name ≠ "." ∧ name ≠ "..") :
    let connectionString :=
      "postgres://host/" ++ String.ofList (Url.Path.nameSegment name.toList)
    databaseName? dialect connectionString = some (String.ofList (readAsValue name.toList)) ∧
      (databaseName? dialect connectionString = some name ↔
        '+' ∉ name.toList ∧ '&' ∉ name.toList) := by
  intro connectionString
  have resolved := Url.Path.normalized_name_segment slashless
    (fun same => undotted.1 (String.toList_inj.mp same))
    (fun same => undotted.2 (String.toList_inj.mp same))
  obtain ⟨trimmed, recognized, read⟩ := parse?_hosted resolved
  have written : connectionString.toList =
      "postgres://host".toList ++ '/' :: Url.Path.nameSegment name.toList := by
    simp [connectionString]
  have database := url_database?_name_segment (fun empty => present (String.toList_inj.mp empty))
    slashless (rfl : (hosted ('/' :: Url.Path.nameSegment name.toList)).path = _)
  have answer : databaseName? dialect connectionString =
      some (String.ofList (readAsValue name.toList)) := by
    cases dialect with
    | sqlite => exact absurd rfl server
    | postgres | sqlServer =>
      simp only [databaseName?, written, trimmed, recognized, if_true, read, database,
        Option.map_some]
  refine ⟨answer, ?_⟩
  rw [answer, Option.some.injEq, ← read_as_value_eq_self_iff, ← String.toList_inj,
    String.toList_ofList]

/-- A name with spaces at its ends, an encoded dot, a percent sign alone, marks of queries,
fragments and user names, a letter beyond ASCII, a control and two dots. -/
theorem database_name?_name_segment_marks :
    let name := " %2E%?#[{}]^\\|;:=@é\t.. "
    name ≠ "" ∧ '/' ∉ name.toList ∧ (name ≠ "." ∧ name ≠ "..") ∧
      String.ofList (Url.Path.nameSegment name.toList) =
        "%20%252E%25%3F%23[%7B%7D]%5E\\|;:=@%C3%A9%09..%20" ∧
      databaseName? .sqlServer
        ("postgres://host/" ++ String.ofList (Url.Path.nameSegment name.toList)) = some name := by
  intro name
  have slashless : '/' ∉ name.toList := by decide
  have signless : '+' ∉ name.toList ∧ '&' ∉ name.toList := by decide
  refine ⟨by decide, slashless, by decide, by decide +kernel, ?_⟩
  exact (database_name?_name_segment .sqlServer name (by decide) (by decide) slashless
    (by decide)).2.mpr signless

/-- A plus, which stands for itself in a path, is read as a space, and an ampersand ends the
name. -/
theorem database_name?_signs :
    (Url.Path.nameSegment "a+b".toList = "a+b".toList ∧
      databaseName? .postgres "postgres://host/a+b" = some "a b" ∧
      databaseName? .sqlServer "postgres://host/a+b" = some "a b" ∧
      databaseName? .postgres "postgres://host/a+b" ≠ some "a+b") ∧
    (Url.Path.nameSegment "R&D".toList = "R&D".toList ∧
      databaseName? .postgres "postgres://host/R&D" = some "R" ∧
      databaseName? .sqlServer "postgres://host/R&D" = some "R" ∧
      databaseName? .postgres "postgres://host/R&D" ≠ some "R&D") := by
  decide +kernel

end Reading

end ConnectionString

end SqlAccess
