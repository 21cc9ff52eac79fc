import SqlAccess.Proofs.Text.Trim
import SqlAccess.Proofs.Url.Parts
import SqlAccess.Proofs.Url.Path

/-!
# URLs read back

A URL that was read is settled: each of its parts is one that its own reader has made. Main
statement: the written form of a settled URL with a lower-case scheme reads back as the URL, so
reading what is written changes nothing.
-/

namespace SqlAccess.Url

open Text

/-- An authority cut behind its last at sign. -/
def userAndRest (authority : List Char) : Option (List Char) × List Char :=
  match cutAtLast '@' authority with
  | some (before, after) => (some before, after)
  | none => (none, authority)

variable {s scheme rest : List Char} {url : Url}

/-- What is read behind the scheme. -/
def readBehind (scheme afterScheme : List Char) : Except UrlFault Url :=
  let tail := afterScheme.dropWhile fun c => !endsAuthority c
  let (userInfo, hostAndPort) := userAndRest (afterScheme.takeWhile fun c => !endsAuthority c)
  if userInfo = some [] ∧ hostAndPort = [] ∧ tail ≠ [] then .error .emptyHost
  else
    let (written, portPart) := cutHost false hostAndPort
    match hostText? written with
    | .error fault => .error fault
    | .ok host =>
      if host.isEmpty ∧ portPart ≠ [] then .error .emptyHost
      else
        match port? portPart with
        | .error fault => .error fault
        | .ok (port, pathStart) =>
          if host.isEmpty ∧ credentialsText (userInfo.getD []) ≠ [] then .error .emptyHost
          else
            let (beforeFragment, fragment) := cutTail '#' (pathStart ++ tail)
            let (path, query) := cutTail '?' beforeFragment
            .ok {
              scheme := lowerAscii scheme
              credentials := credentialsText (userInfo.getD [])
              host := host
              port := port
              path := Path.normalized path
              query := query.map (Percent.encode escapedInQuery)
              fragment := fragment.map (Percent.encode escapedInFragment) }

/-- Reading begins at the scheme. -/
theorem parse?_eq (s : List Char) :
    parse? s = match cutAtPart "://".toList (cleaned s) with
      | some halves => readBehind halves.1 halves.2
      | none => .error .relative := by
  unfold parse?
  cases cutAtPart "://".toList (cleaned s) with
  | none => rfl
  | some halves =>
    obtain ⟨scheme, afterScheme⟩ := halves
    dsimp only
    unfold readBehind userAndRest
    simp only [pure_bind]
    cases cutAtLast '@' (afterScheme.takeWhile fun c => !endsAuthority c) <;> dsimp only
    all_goals
      split
      · rfl
      generalize cutHost false _ = parts
      obtain ⟨written, portPart⟩ := parts
      dsimp only
      cases hostText? written with
      | error fault => rfl
      | ok host =>
        simp only [bind, Except.bind]
        split
        · rfl
        cases port? portPart with
        | error fault => rfl
        | ok behind =>
          dsimp only
          split <;> rfl

/-- Every part of a URL is one that its own reader has made, and without a host there is neither a
port nor a user. -/
structure Settled (url : Url) : Prop where
  credentials : ∃ written, url.credentials = credentialsText written
  host : ∃ written, hostText? written = .ok url.host
  port : ∀ n ∈ url.port, n < 65536
  bare : url.host = [] → url.port = none ∧ url.credentials = []
  path : ∃ written, url.path = Path.normalized written
  query : ∃ written : Option (List Char),
    url.query = written.map (Percent.encode escapedInQuery)
  fragment : ∃ written : Option (List Char),
    url.fragment = written.map (Percent.encode escapedInFragment)

/-- Another path settles too. -/
theorem Settled.with_path (settled : Settled url) (path : List Char) :
    Settled (url.withPath path) :=
  { settled with path := ⟨path, rfl⟩ }

/-- A port that is read is a word of sixteen bits. -/
theorem port?_lt {port : Option Nat} {pathStart : List Char}
    (read : port? s = .ok (port, pathStart)) : ∀ n ∈ port, n < 65536 := by
  intro n member
  unfold port? at read
  grind

/-- What is read is settled. -/
theorem settled_of_read_behind (read : readBehind scheme rest = .ok url) :
    url.scheme = lowerAscii scheme ∧ Settled url := by
  unfold readBehind at read
  generalize userAndRest _ = user at read
  obtain ⟨userInfo, hostAndPort⟩ := user
  dsimp only at read
  split at read
  · cases read
  generalize cutHost false hostAndPort = parts at read
  obtain ⟨written, portPart⟩ := parts
  dsimp only at read
  split at read
  · cases read
  rename_i host named
  split at read
  · cases read
  rename_i portHost
  split at read
  · cases read
  rename_i port pathStart numbered
  split at read
  · cases read
  rename_i userHost
  cases read
  refine ⟨rfl, ⟨_, rfl⟩, ⟨written, named⟩, port?_lt numbered, ?_, ⟨_, rfl⟩,
    ⟨_, rfl⟩, ⟨_, rfl⟩⟩
  rintro rfl
  have noPort : portPart = [] := by simpa using portHost
  subst noPort
  cases numbered
  exact ⟨rfl, by simpa using userHost⟩

/-- What stands between the scheme and the path. -/
def authority (url : Url) : List Char := url.credentials ++ url.host ++ portText url.port

/-- The written form in the order in which it is read. -/
theorem text_eq (url : Url) :
    url.text = url.scheme ++ "://".toList ++ (url.authority ++
      (url.path ++ marked '?' url.query ++ marked '#' url.fragment)) := by
  obtain ⟨scheme, credentials, host, port, path, query, fragment⟩ := url
  cases port <;> cases query <;> cases fragment <;>
    simp [text, origin, suffix, authority, portText, marked]

namespace Settled

/-- A host and a port hold no at sign and nothing that ends an authority. -/
theorem authorial (settled : Settled url) :
    ∀ c ∈ url.host ++ portText url.port, authorial c = true := by
  obtain ⟨written, named⟩ := settled.host
  exact List.forall_mem_append.mpr ⟨authorial_host named, authorial_port url.port⟩

/-- Nothing in an authority ends it, and all of it is visible. -/
theorem of_mem_authority (settled : Settled url) :
    ∀ c ∈ url.authority, visible c = true ∧ endsAuthority c = false := by
  have split {c : Char} (own : Url.authorial c = true) :
      visible c = true ∧ endsAuthority c = false := by
    simp only [Url.authorial, Bool.and_eq_true, Bool.not_eq_true'] at own
    exact own.1
  have behind (c : Char) (member : c ∈ url.host ++ portText url.port) :=
    split (settled.authorial c member)
  obtain ⟨written, form⟩ := settled.credentials
  rw [authority, List.append_assoc, form]
  rcases credentials_text_cases written with missing | ⟨inner, whole, _, _, plain⟩
  · rw [missing]
    exact behind
  · rw [whole]
    exact List.forall_mem_append.mpr ⟨List.forall_mem_append.mpr
      ⟨fun c member => split (plain c member), List.forall_mem_singleton.mpr ⟨rfl, rfl⟩⟩,
        behind⟩

/-- An authority is cut behind its credentials, which read back as they are. -/
theorem user_and_rest_authority (settled : Settled url) :
    ∃ userInfo, userAndRest url.authority = (userInfo, url.host ++ portText url.port) ∧
      userInfo ≠ some [] ∧ credentialsText (userInfo.getD []) = url.credentials := by
  have free : '@' ∉ url.host ++ portText url.port := fun member =>
    nomatch settled.authorial '@' member
  obtain ⟨written, form⟩ := settled.credentials
  rw [authority, List.append_assoc, form]
  rcases credentials_text_cases written with missing | ⟨inner, whole, again, present, _⟩
  · rw [missing, List.nil_append]
    refine ⟨none, ?_, nofun, rfl⟩
    simp only [userAndRest, cut_at_last_eq_none_iff.mpr free]
  · rw [whole]
    refine ⟨some inner, ?_, by simpa using present, again⟩
    simp only [userAndRest, List.append_assoc, List.singleton_append, cut_at_last_append inner free]

/-- What stands behind an authority ends it. -/
theorem ends (settled : Settled url) :
    ∀ c ∈ (url.path ++ marked '?' url.query ++ marked '#' url.fragment).head?,
      endsAuthority c = true := by
  obtain ⟨written, path⟩ := settled.path
  have slash := Path.normalized_head written
  rw [← path] at slash
  intro c first
  cases place : url.path with
  | cons d others =>
    rw [place] at first slash
    obtain rfl : d = c := Option.some.inj first
    rw [slash d rfl]
    rfl
  | nil =>
    rw [place, List.nil_append] at first
    cases query : url.query with
    | some text =>
      rw [query] at first
      obtain rfl : '?' = c := Option.some.inj first
      rfl
    | none =>
      cases fragment : url.fragment with
      | none => simp [query, fragment, marked] at first
      | some text =>
        rw [query, fragment] at first
        obtain rfl : '#' = c := Option.some.inj first
        rfl

/-- Nothing in a path or a query is to be encoded. -/
theorem plain (settled : Settled url) :
    (∀ c ∈ url.path, Path.escaped c = false) ∧
      (∀ c ∈ url.query.getD [], escapedInQuery c = false) ∧
      ∀ c ∈ url.fragment.getD [], escapedInFragment c = false := by
  obtain ⟨_, path⟩ := settled.path
  obtain ⟨query, queryForm⟩ := settled.query
  obtain ⟨fragment, fragmentForm⟩ := settled.fragment
  rw [path, queryForm, fragmentForm]
  refine ⟨Path.plain_normalized _, ?_, ?_⟩
  · cases query with
    | none => exact nofun
    | some text => exact Percent.plain_encode (forall_mem_of_all (by decide))
  · cases fragment with
    | none => exact nofun
    | some text => exact Percent.plain_encode (forall_mem_of_all (by decide))

/-- A path ends at the mark of a query or a fragment. -/
theorem cut (settled : Settled url) :
    cutTail '#' (url.path ++ marked '?' url.query ++ marked '#' url.fragment) =
        (url.path ++ marked '?' url.query, url.fragment) ∧
      cutTail '?' (url.path ++ marked '?' url.query) = (url.path, url.query) := by
  obtain ⟨path, query, _⟩ := settled.plain
  have noMark : '?' ∉ url.path ∧ '#' ∉ url.path :=
    ⟨fun member => (visible_of_path (path _ member)).2.1 rfl,
      fun member => (visible_of_path (path _ member)).2.2 rfl⟩
  refine ⟨cut_tail_marked ?_ _, cut_tail_marked noMark.1 _⟩
  intro member
  rcases List.mem_append.mp member with inPath | inQuery
  · exact noMark.2 inPath
  · cases form : url.query with
    | none => simp [form, marked] at inQuery
    | some text =>
      rw [form] at inQuery query
      rcases List.mem_cons.mp inQuery with impossible | inside
      · cases impossible
      · exact (visible_of_query (query _ inside)).2 rfl

/-- Encoding the parts again changes nothing. -/
theorem again (settled : Settled url) :
    Path.normalized url.path = url.path ∧
      url.query.map (Percent.encode escapedInQuery) = url.query ∧
      url.fragment.map (Percent.encode escapedInFragment) = url.fragment := by
  obtain ⟨_, query, fragment⟩ := settled.plain
  obtain ⟨written, path⟩ := settled.path
  refine ⟨?_, ?_, ?_⟩
  · rw [path, Path.normalized_normalized]
  · cases form : url.query with
    | none => rfl
    | some text =>
      rw [form] at query
      exact congrArg some (Percent.encode_of_plain query)
  · cases form : url.fragment with
    | none => rfl
    | some text =>
      rw [form] at fragment
      exact congrArg some (Percent.encode_of_plain fragment)

/-- What is read behind the scheme of a written URL. -/
theorem read_behind_text (settled : Settled url) (scheme : List Char) :
    readBehind scheme
        (url.authority ++ (url.path ++ marked '?' url.query ++ marked '#' url.fragment)) =
      .ok { url with scheme := lowerAscii scheme } := by
  have divided := take_while_drop_while_append (p := fun c => !endsAuthority c) (s := url.authority)
    (fun c member => by simp [(settled.of_mem_authority c member).2])
    (fun c (first : c ∈ (url.path ++ marked '?' url.query ++ marked '#' url.fragment).head?) =>
      by simp [settled.ends c first])
  obtain ⟨userInfo, user, someone, credentials⟩ := settled.user_and_rest_authority
  obtain ⟨written, named⟩ := settled.host
  have hosted := cut_host_host named (port_text_head url.port)
  have portHost : ¬(url.host.isEmpty = true ∧ portText url.port ≠ []) := by
    rintro ⟨nowhere, port⟩
    rw [(settled.bare (List.isEmpty_iff.mp nowhere)).1] at port
    exact port rfl
  have userHost : ¬(url.host.isEmpty = true ∧ url.credentials ≠ []) :=
    fun both => both.2 (settled.bare (List.isEmpty_iff.mp both.1)).2
  obtain ⟨front, place⟩ := settled.cut
  obtain ⟨path, query, fragment⟩ := settled.again
  simp only [readBehind, divided.1, divided.2, user, someone, false_and, if_false, hosted,
    host_text?_host named, if_neg portHost, port?_port_text settled.port, credentials,
    if_neg userHost, List.nil_append, front, place, path, query, fragment]

/-- All of a written URL is visible, if its scheme is. -/
theorem visible_of_mem_text (settled : Settled url)
    (scheme : ∀ c ∈ url.scheme, visible c = true) :
    ∀ c ∈ url.text, visible c = true := by
  obtain ⟨path, query, fragment⟩ := settled.plain
  have markedVisible {mark : Char} {part : Option (List Char)} (own : visible mark = true)
      (inside : ∀ c ∈ part.getD [], visible c = true) :
      ∀ c ∈ marked mark part, visible c = true := by
    cases part with
    | none => exact nofun
    | some text => exact List.forall_mem_cons.mpr ⟨own, inside⟩
  rw [text_eq]
  simp only [List.forall_mem_append]
  exact ⟨⟨scheme, forall_mem_of_all (by decide)⟩,
    fun c member => (settled.of_mem_authority c member).1,
    ⟨fun c member => (visible_of_path (path c member)).1,
      markedVisible rfl fun c member => (visible_of_query (query c member)).1⟩,
    markedVisible rfl fun c member => visible_of_fragment (fragment c member)⟩

end Settled

section Cleaning

/-- The characters that are cut off at the ends of a text. -/
def low (c : Char) : Bool := c.toNat ≤ 0x20

/-- The characters that a text may hold. -/
def unbroken (c : Char) : Bool := c ≠ '\t' && c ≠ '\n' && c ≠ '\r'

/-- What is visible is neither low nor a break. -/
theorem unbroken_of_visible {c : Char} (own : visible c = true) :
    low c = false ∧ unbroken c = true := by
  simp only [visible, Bool.and_eq_true, decide_eq_true_eq] at own
  refine ⟨by simp only [low, decide_eq_false_iff_not]; omega, ?_⟩
  simp only [unbroken, Bool.and_eq_true, decide_eq_true_eq]
  refine ⟨⟨?_, ?_⟩, ?_⟩ <;> rintro rfl <;> exact absurd own.1 (by decide)

/-- Nothing is cut off in front of a character that is not low. -/
theorem drop_while_low (ink : ∀ c ∈ s.head?, low c = false) : s.dropWhile low = s :=
  (take_while_drop_while_append (s := []) (fun _ impossible => absurd impossible List.not_mem_nil)
    ink).2

/-- What is left of the end of a text when it is cleaned. -/
def cleanedEnd (s : List Char) : List Char := (s.reverse.dropWhile low).reverse.filter unbroken

/-- What stands behind a visible character is cleaned by itself. -/
theorem cleaned_end_append_cons {c : Char} (own : visible c = true) (s rest : List Char) :
    cleanedEnd (s ++ c :: rest) = s.filter unbroken ++ c :: cleanedEnd rest := by
  obtain ⟨ink, kept⟩ := unbroken_of_visible own
  rw [cleanedEnd, drop_end_while_append_cons ink, List.filter_append, List.filter_cons_of_pos kept]
  rfl

/-- A text that begins with visible characters begins with them still when it is cleaned. -/
theorem cleaned_append {front : List Char} (plain : ∀ c ∈ front, visible c = true)
    (some : front ≠ []) (rest : List Char) :
    cleaned (front ++ rest) = front ++ cleanedEnd rest := by
  have starts : (front ++ rest).dropWhile low = front ++ rest := by
    refine drop_while_low fun c first => ?_
    obtain ⟨d, others, rfl⟩ := List.exists_cons_of_ne_nil some
    obtain rfl : d = c := Option.some.inj first
    exact (unbroken_of_visible (plain d List.mem_cons_self)).1
  have form : cleaned (front ++ rest) = cleanedEnd ((front ++ rest).dropWhile low) := rfl
  obtain ⟨others, last, rfl⟩ : ∃ others last, front = others ++ [last] :=
    ⟨_, _, (List.dropLast_concat_getLast some).symm⟩
  have kept : others.filter unbroken = others :=
    List.filter_eq_self.mpr fun c member =>
      (unbroken_of_visible (plain c (List.mem_append_left _ member))).2
  have own : visible last = true := plain last (List.mem_append_right _ List.mem_cons_self)
  rw [form, starts, List.append_assoc, List.singleton_append, cleaned_end_append_cons own, kept,
    List.append_assoc, List.singleton_append]

/-- What is visible is read as it is. -/
theorem cleaned_of_visible (plain : ∀ c ∈ s, visible c = true) : cleaned s = s := by
  by_cases empty : s = []
  · subst empty
    rfl
  · have whole := cleaned_append plain empty []
    have nothing : cleanedEnd [] = [] := rfl
    rwa [nothing, List.append_nil] at whole

end Cleaning

section RoundTrip

/-- A lower-case letter is visible. -/
theorem visible_of_is_lower {c : Char} (lower : c.isLower = true) :
    visible c = true ∧ c ≠ ':' := by
  obtain ⟨least, greatest⟩ := is_lower_iff.mp lower
  refine ⟨?_, ?_⟩
  · simp only [visible, Bool.and_eq_true, decide_eq_true_eq]
    omega
  · rintro rfl
    exact absurd least (by decide)

/-- A lower-case letter stays what it is. -/
theorem to_lower_of_is_lower {c : Char} (lower : c.isLower = true) : c.toLower = c := by
  refine to_lower_of_is_upper_eq_false (Bool.eq_false_iff.mpr fun upper => ?_)
  have least := (is_lower_iff.mp lower).1
  have greatest := (is_upper_iff.mp upper).2
  omega

/-- Lower-case text stays what it is. -/
theorem lower_ascii_of_is_lower (lower : ∀ c ∈ s, c.isLower = true) : lowerAscii s = s :=
  (List.map_congr_left fun c member => to_lower_of_is_lower (lower c member)).trans (List.map_id _)

/-- The written form of a URL is read back as the URL. -/
theorem Settled.parse?_text (settled : Settled url)
    (lower : ∀ c ∈ url.scheme, c.isLower = true) :
    parse? url.text = .ok url := by
  have plain := settled.visible_of_mem_text fun c member => (visible_of_is_lower (lower c member)).1
  have colonFree : ':' ∉ url.scheme := fun member => (visible_of_is_lower (lower _ member)).2 rfl
  rw [parse?_eq, cleaned_of_visible plain, text_eq, show "://".toList = [':', '/', '/'] from rfl,
    cut_at_part_append colonFree]
  simp only [settled.read_behind_text, lower_ascii_of_is_lower lower]

end RoundTrip

end SqlAccess.Url
