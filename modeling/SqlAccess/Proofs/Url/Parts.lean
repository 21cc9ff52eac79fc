import SqlAccess.Proofs.Decimal.Digits
import SqlAccess.Proofs.Text.Cut
import SqlAccess.Proofs.Text.Percent
import SqlAccess.Proofs.Url.Ipv6
import SqlAccess.Url

/-!
# The parts of a URL read back

Each part of a URL is written so that it reads back as it is. What would end it early is encoded or
refused, and what is encoded once is not encoded again. All that is written is visible ASCII, so
nothing of it is taken for a blank around the text.
-/

namespace SqlAccess.Url

open Text

variable {c : Char} {s host written user password : List Char}

section Characters

/-- The characters that every part is written in. -/
def visible (c : Char) : Bool := 0x20 < c.toNat && c.toNat ≤ 0x7E

/-- The characters of an authority: visible, and none that ends it or its credentials. -/
def authorial (c : Char) : Bool := visible c && !endsAuthority c && c ≠ '@'

/-- What holds for the characters of ASCII holds for those that are no control and not foreign. -/
theorem of_plain {p : Char → Bool} (each : ∀ n < 0x7F, 0x20 ≤ n → p (Char.ofNat n) = true)
    (plain : isControlOrForeign c = false) : p c = true := by
  simp only [isControlOrForeign, Bool.or_eq_false_iff, decide_eq_false_iff_not] at plain
  rw [← Char.ofNat_toNat c]
  exact each c.toNat (by omega) (by omega)

/-- What stands for itself in credentials. -/
theorem authorial_of_credentials (plain : escapedInCredentials c = false) : authorial c = true := by
  have ascii : isControlOrForeign c = false := by
    rw [escapedInCredentials, Path.escaped, Bool.or_eq_false_iff, Bool.or_eq_false_iff] at plain
    exact plain.1.1
  have either : (escapedInCredentials c || authorial c) = true :=
    of_plain (p := fun c => escapedInCredentials c || authorial c) (by decide) ascii
  rwa [plain, Bool.false_or] at either

/-- What stands for itself in a host. -/
theorem authorial_of_host (plain : isControlOrForeign c = false)
    (allowed : forbiddenInHost c = false) : authorial c = true := by
  have either : (forbiddenInHost c || authorial c) = true :=
    of_plain (p := fun c => forbiddenInHost c || authorial c) (by decide) plain
  rwa [allowed, Bool.false_or] at either

/-- What stands for itself in a path. -/
theorem visible_of_path (plain : Path.escaped c = false) :
    visible c = true ∧ c ≠ '?' ∧ c ≠ '#' := by
  have ascii : isControlOrForeign c = false := by
    rw [Path.escaped, Bool.or_eq_false_iff] at plain
    exact plain.1
  have either : (Path.escaped c || (visible c && c ≠ '?' && c ≠ '#')) = true :=
    of_plain (p := fun c => Path.escaped c || (visible c && c ≠ '?' && c ≠ '#')) (by decide)
      ascii
  simpa [plain, and_assoc] using either

/-- What stands for itself in a query. -/
theorem visible_of_query (plain : escapedInQuery c = false) : visible c = true ∧ c ≠ '#' := by
  have ascii : isControlOrForeign c = false := by
    rw [escapedInQuery, Bool.or_eq_false_iff] at plain
    exact plain.1
  have either : (escapedInQuery c || (visible c && c ≠ '#')) = true :=
    of_plain (p := fun c => escapedInQuery c || (visible c && c ≠ '#')) (by decide) ascii
  simpa [plain] using either

/-- What stands for itself in a fragment. -/
theorem visible_of_fragment (plain : escapedInFragment c = false) : visible c = true := by
  have ascii : isControlOrForeign c = false := by
    rw [escapedInFragment, Bool.or_eq_false_iff] at plain
    exact plain.1
  have either : (escapedInFragment c || visible c) = true :=
    of_plain (p := fun c => escapedInFragment c || visible c) (by decide) ascii
  rwa [plain, Bool.false_or] at either

end Characters

section Credentials

/-- A user name or a password, encoded. -/
abbrev encoded (s : List Char) : List Char := Percent.encode escapedInCredentials s

/-- The marks of encoding are not encoded in credentials. -/
theorem escaped_in_credentials_of_mem_marks :
    ∀ c ∈ Percent.marks, escapedInCredentials c = false := forall_mem_of_all (by decide)

/-- Nothing in an encoded name is to be encoded. -/
theorem plain_encoded (s : List Char) : ∀ c ∈ encoded s, escapedInCredentials c = false :=
  Percent.plain_encode escaped_in_credentials_of_mem_marks

/-- A colon is encoded. -/
theorem colon_free_encoded (s : List Char) : ':' ∉ encoded s := by
  intro member
  cases plain_encoded s ':' member

/-- Encoding a second time changes nothing. -/
theorem encoded_encoded (s : List Char) : encoded (encoded s) = encoded s :=
  Percent.encode_encode escaped_in_credentials_of_mem_marks s

/-- A user name alone. -/
theorem credentials_text_user (free : ':' ∉ user) (some : user ≠ []) :
    credentialsText user = encoded user ++ ['@'] := by
  have present : user.isEmpty = false := by simpa using some
  simp only [credentialsText, cut_at_eq_none_iff.mpr free, present, Bool.false_eq_true, if_false]

/-- A user name, which may be empty, and a password. -/
theorem credentials_text_both (free : ':' ∉ user) (some : password ≠ []) :
    credentialsText (user ++ ':' :: password) =
      encoded user ++ ':' :: encoded password ++ ['@'] := by
  obtain ⟨c, rest, rfl⟩ := List.exists_cons_of_ne_nil some
  simp only [credentialsText, cut_at_append free]

/-- A user name with a colon behind it but no password. -/
theorem credentials_text_colon (free : ':' ∉ user) (some : user ≠ []) :
    credentialsText (user ++ [':']) = encoded user ++ ['@'] := by
  obtain ⟨c, rest, rfl⟩ := List.exists_cons_of_ne_nil some
  simp only [credentialsText, cut_at_append free]

/-- Credentials are missing, or they are a text in front of an at sign that reads back as it is. -/
theorem credentials_text_cases (s : List Char) :
    credentialsText s = [] ∨ ∃ inner, credentialsText s = inner ++ ['@'] ∧
      credentialsText inner = inner ++ ['@'] ∧ inner ≠ [] ∧
        ∀ c ∈ inner, authorial c = true := by
  have own (t : List Char) : ∀ c ∈ encoded t, authorial c = true :=
    fun c member => authorial_of_credentials (plain_encoded t c member)
  have someone {t : List Char} (some : t ≠ []) : encoded t ≠ [] :=
    fun none => some (Percent.encode_eq_nil_iff.mp none)
  have alone {t : List Char} (some : t ≠ []) :
      credentialsText (encoded t) = encoded t ++ ['@'] := by
    rw [credentials_text_user (colon_free_encoded t) (someone some), encoded_encoded]
  cases cut : cutAt ':' s with
  | none =>
    by_cases empty : s = []
    · subst empty
      exact Or.inl rfl
    · exact Or.inr
        ⟨encoded s, credentials_text_user (cut_at_eq_none_iff.mp cut) empty, alone empty,
        someone empty, own s⟩
  | some halves =>
    obtain ⟨user, password⟩ := halves
    obtain ⟨rfl, free⟩ := cut_at_eq_some_iff.mp cut
    by_cases unlocked : password = []
    · subst unlocked
      by_cases nobody : user = []
      · subst nobody
        exact Or.inl rfl
      · exact Or.inr ⟨encoded user, credentials_text_colon free nobody, alone nobody,
          someone nobody, own user⟩
    · refine Or.inr
        ⟨encoded user ++ ':' :: encoded password, credentials_text_both free unlocked,
        ?_, by simp, ?_⟩
      · rw [credentials_text_both (colon_free_encoded user) (someone unlocked), encoded_encoded,
          encoded_encoded]
      · exact List.forall_mem_append.mpr
          ⟨own user, List.forall_mem_cons.mpr ⟨rfl, own password⟩⟩

end Credentials

section Host

/-- A host is an address in brackets or a name without forbidden characters. -/
theorem host_text?_cases (read : hostText? written = .ok host) :
    (∃ address : Ipv6, Ipv6.Small address.groups ∧ host = '[' :: address.text ++ [']']) ∨
      ∀ c ∈ host, isControlOrForeign c = false ∧ forbiddenInHost c = false := by
  unfold hostText? at read
  split at read
  · split at read
    · rename_i address found
      obtain ⟨inner, _, parsed⟩ := Option.bind_eq_some_iff.mp found
      exact Or.inl ⟨address, Ipv6.parse?_small parsed, (Except.ok.inj read).symm⟩
    · cases read
  · split at read
    · cases read
    · rename_i allowed
      refine Or.inr fun c member => ?_
      rw [← Except.ok.inj read] at member
      have marks : ∀ c ∈ Percent.marks,
          isControlOrForeign c = false ∧ forbiddenInHost c = false :=
        forall_mem_of_all (by decide)
      rcases Percent.mem_encode member with ⟨inside, plain⟩ | mark
      · rw [Bool.not_eq_true, List.any_eq_false] at allowed
        exact ⟨plain, Bool.eq_false_iff.mpr (allowed c inside)⟩
      · exact marks c mark

/-- What is in an address. -/
theorem of_mem_address {address : Ipv6} (member : c ∈ address.text) :
    authorial c = true ∧ c ≠ '[' ∧ c ≠ ']' := by
  have plain : isControlOrForeign c = false := by
    rcases Ipv6.mem_text member with rfl | digit
    · decide
    · simp only [Bytes.digitValue?] at digit
      simp only [isControlOrForeign, Bool.or_eq_false_iff, decide_eq_false_iff_not]
      grind
  have either : (!(c = ':' || (Bytes.digitValue? c).isSome) ||
      (authorial c && c ≠ '[' && c ≠ ']')) = true :=
    of_plain (p := fun c => !(c = ':' || (Bytes.digitValue? c).isSome) ||
      (authorial c && c ≠ '[' && c ≠ ']')) (by decide) plain
  rcases Ipv6.mem_text member with rfl | digit
  · decide
  · simpa [digit, and_assoc] using either

/-- A host is read back as it is written. -/
theorem host_text?_host (read : hostText? written = .ok host) : hostText? host = .ok host := by
  rcases host_text?_cases read with ⟨address, small, rfl⟩ | plain
  · simp [hostText?, drop_end?_append, Ipv6.parse?_text small]
  · unfold hostText?
    split
    · rename_i inner
      cases (plain '[' List.mem_cons_self).2
    · have allowed : host.any forbiddenInHost = false := by
        rw [List.any_eq_false]
        exact fun c member => Bool.eq_false_iff.mp (plain c member).2
      rw [allowed, Percent.encode_of_plain fun c member => (plain c member).1]
      rfl

/-- A host is written in characters of an authority. -/
theorem authorial_host (read : hostText? written = .ok host) :
    ∀ c ∈ host, authorial c = true := by
  rcases host_text?_cases read with ⟨address, _, rfl⟩ | plain
  · exact List.forall_mem_append.mpr ⟨List.forall_mem_cons.mpr
      ⟨rfl, fun c member => (of_mem_address member).1⟩, List.forall_mem_singleton.mpr rfl⟩
  · exact fun c member => authorial_of_host (plain c member).1 (plain c member).2

/-- Characters that neither open nor close brackets are passed, inside brackets colons too. -/
theorem cut_host_append {bracketed : Bool}
    (free : ∀ c ∈ s, c ≠ '[' ∧ c ≠ ']' ∧ (c = ':' → bracketed = true))
    (rest : List Char) :
    cutHost bracketed (s ++ rest) =
      (s ++ (cutHost bracketed rest).1, (cutHost bracketed rest).2) := by
  induction s with
  | nil => rfl
  | cons c others inductionHypothesis =>
    obtain ⟨⟨noOpen, noClose, inside⟩, later⟩ := List.forall_mem_cons.mp free
    have passed : (decide (c = ':') && !bracketed) = false := by
      by_cases colon : c = ':' <;> simp [colon, inside]
    simp [cutHost, passed, noOpen, noClose, inductionHypothesis later]

/-- A host ends where a colon follows. -/
theorem cut_host_rest {rest : List Char} (colon : ∀ c ∈ rest.head?, c = ':') :
    cutHost false rest = ([], rest) := by
  cases rest with
  | nil => rfl
  | cons c others =>
    obtain rfl := colon c rfl
    rfl

/-- A host is cut off at the colon behind it. -/
theorem cut_host_host (read : hostText? written = .ok host) {rest : List Char}
    (colon : ∀ c ∈ rest.head?, c = ':') : cutHost false (host ++ rest) = (host, rest) := by
  rcases host_text?_cases read with ⟨address, _, rfl⟩ | plain
  · have inner : cutHost true (address.text ++ (']' :: rest)) =
        (address.text ++ (cutHost true (']' :: rest)).1, (cutHost true (']' :: rest)).2) :=
      cut_host_append (fun c member => ⟨(of_mem_address member).2.1, (of_mem_address member).2.2,
        fun _ => rfl⟩) _
    have close : cutHost true (']' :: rest) = ([']'], rest) := by
      simp [cutHost, cut_host_rest colon]
    rw [List.append_assoc, List.cons_append, List.singleton_append, cutHost]
    simp [inner, close]
  · rw [cut_host_append, cut_host_rest colon, List.append_nil]
    intro c member
    have allowed := (plain c member).2
    refine ⟨?_, ?_, ?_⟩ <;> rintro rfl <;> cases allowed

end Host

section Port

/-- A port behind its colon. -/
def portText (port : Option Nat) : List Char :=
  match port with
  | some n => ':' :: Decimal.ofNat n
  | none => []

/-- A port begins with a colon. -/
theorem port_text_head (port : Option Nat) : ∀ c ∈ (portText port).head?, c = ':' := by
  cases port with
  | none => exact fun _ impossible => nomatch impossible
  | some n => exact fun c first => (Option.some.inj first).symm

/-- A port is written in characters of an authority. -/
theorem authorial_port (port : Option Nat) : ∀ c ∈ portText port, authorial c = true := by
  cases port with
  | none => exact fun _ impossible => absurd impossible List.not_mem_nil
  | some n =>
    refine List.forall_mem_cons.mpr ⟨rfl, fun c member => ?_⟩
    have each : ∀ c ∈ "0123456789".toList, authorial c = true := forall_mem_of_all (by decide)
    exact each c (Decimal.mem_digits (List.all_eq_true.mp (Decimal.digits_of_nat n) c member))

/-- A port is read back. -/
theorem port?_port_text {port : Option Nat} (small : ∀ n ∈ port, n < 65536) :
    port? (portText port) = .ok (port, []) := by
  cases port with
  | none => rfl
  | some n =>
    have each : ∀ c ∈ "0123456789".toList, decide (c ≠ '\\') = true :=
      forall_mem_of_all (by decide)
    have whole := take_while_drop_while_append
      (fun c member => each c
        (Decimal.mem_digits (List.all_eq_true.mp (Decimal.digits_of_nat n) c member)))
      (fun c (impossible : c ∈ ([] : List Char).head?) => nomatch impossible)
    rw [List.append_nil] at whole
    have present : (Decimal.ofNat n).isEmpty = false := by simpa using Decimal.of_nat_ne_nil n
    rw [portText, port?]
    simp only [whole.1, whole.2, present, Bool.false_eq_true, if_false, Decimal.nat_value?_of_nat,
      if_pos (small n rfl)]

end Port

section Tail

/-- A tail is cut at its first mark. -/
theorem cut_tail_append {mark : Char} (free : mark ∉ s) (rest : List Char) :
    cutTail mark (s ++ mark :: rest) = (s, some rest) := by
  simp only [cutTail, cut_at_append free]

/-- A tail without the mark is not cut. -/
theorem cut_tail_of_not_mem {mark : Char} (free : mark ∉ s) : cutTail mark s = (s, none) := by
  simp only [cutTail, cut_at_eq_none_iff.mpr free]

/-- A part behind its mark, if there is one. -/
def marked (mark : Char) (part : Option (List Char)) : List Char :=
  match part with
  | some text => mark :: text
  | none => []

/-- A part behind its mark is cut off. -/
theorem cut_tail_marked {mark : Char} (free : mark ∉ s) (part : Option (List Char)) :
    cutTail mark (s ++ marked mark part) = (s, part) := by
  cases part with
  | none => rw [marked, List.append_nil, cut_tail_of_not_mem free]
  | some text => exact cut_tail_append free text

end Tail

end SqlAccess.Url
