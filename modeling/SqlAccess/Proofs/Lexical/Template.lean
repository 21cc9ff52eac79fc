import Mathlib.Data.List.Forall2
import SqlAccess.Proofs.Lexical.Tokens

/-!
# Statements with slots

A template is a statement with names, numbers and places of parameters left out. Filled in, its
tokens are those of the fixed texts and one for each slot, provided that every fixed text behind a
slot begins with a character that ends a token, and that none leaves a token open. So the names that
fill a template change the tokens of its names and no other token.
-/

namespace SqlAccess.Lexical

/-- What a name in a statement is the name of. -/
inductive Part where
  | schema
  | table
  | field
deriving DecidableEq, Repr

/-- What is left out of a statement. -/
inductive Slot where
  | named (part : Part)
  | number (n : Nat)
  /-- The place of the parameter with a number. -/
  | place (index : Nat)
deriving DecidableEq, Repr

/-- Fixed texts with a slot behind each, and the fixed text at the end. -/
structure Template where
  pieces : List (String × Slot)
  ending : String
deriving DecidableEq, Repr

/-- True for a token that is neither a name nor the place of a parameter. -/
def Token.isFixed : Token → Bool
  | .symbol _ | .of .word _ | .of .text _ => true
  | .of .name _ | .of .place _ => false

/-- True for the place of a parameter. -/
def Token.isPlace : Token → Bool
  | .of .place _ => true
  | _ => false

/-- True for the slot of a parameter. -/
def Slot.isPlace : Slot → Bool
  | .place _ => true
  | .named _ | .number _ => false

section Filling

variable (dialect : Dialect) (names : Part → String)

/-- What is written into a slot. -/
def Slot.text : Slot → List Char
  | .named part => (dialect.quoteIdentifier (names part)).toList
  | .number n => Decimal.ofNat n
  | .place index => (dialect.placeholder index).toList

/-- The token that is written into a slot. -/
def Slot.token : Slot → Token
  | .named part => .of .name (names part).toList
  | .number n => .of .word (Decimal.ofNat n)
  | .place index => .of .place (dialect.placeholder index).toList

/-- Where the reading is behind what is written into a slot. -/
def Slot.state : Slot → State
  | .named part => .leaving .name (names part).toList
  | .number n => .running .word (Decimal.ofNat n)
  | .place index => .running .place (dialect.placeholder index).toList

/-- The tokens that end in a fixed text. -/
def outside (fixed : String) : List Token := (run dialect .between fixed.toList).2

/-- The text of a template that is filled in. -/
def Template.text (template : Template) : List Char :=
  (template.pieces.flatMap fun piece => piece.1.toList ++ piece.2.text dialect names) ++
    template.ending.toList

/-- The tokens of a template that is filled in. -/
def Template.tokens (template : Template) : List Token :=
  (template.pieces.flatMap fun piece => outside dialect piece.1 ++ [piece.2.token dialect names]) ++
    (lex dialect template.ending.toList).getD []

end Filling

section Joints

variable (dialect : Dialect)

/-- True where a fixed text begins with a character that ends a token. -/
def separated (fixed : String) : Bool :=
  fixed.toList.head?.any fun c => !wordInk c && c != dialect.closing

/-- True where a fixed text leaves no token open. -/
def closed (fixed : String) : Bool :=
  (run dialect .between fixed.toList).1 == .between && (outside dialect fixed).all Token.isFixed

/-- True where a fixed text can be the end of a statement, behind a slot. -/
def ends (fixed : String) : Bool :=
  (fixed == "" || separated dialect fixed) &&
    (lex dialect fixed.toList).any fun tokens => tokens.all Token.isFixed

/-- A template whose fixed texts and slots do not run into one another. -/
structure Template.Joined (template : Template) : Prop where
  closed : ∀ piece ∈ template.pieces, closed dialect piece.1 = true
  separated : ∀ piece ∈ template.pieces.tail, separated dialect piece.1 = true
  filled : template.pieces ≠ []
  ends : ends dialect template.ending = true

end Joints

section Reading

variable {dialect : Dialect} {names : Part → String}

/-- What is written into a slot is read up to its end. -/
theorem run_slot (slot : Slot) :
    run dialect .between (slot.text dialect names) = (slot.state dialect names, []) := by
  cases slot with
  | named part =>
    rw [Slot.text, Dialect.quoteIdentifier, String.toList_ofList]
    exact run_quoted (names part).toList
  | number n => exact run_number n
  | place index => exact run_placeholder index

/-- A statement may end behind a slot. -/
theorem finish_slot (slot : Slot) :
    finish (slot.state dialect names) = some [slot.token dialect names] := by
  cases slot <;> rfl

/-- A fixed text behind a slot ends its token and is read on its own. -/
theorem run_behind (slot : Slot) {fixed : String} (apart : separated dialect fixed = true) :
    run dialect (slot.state dialect names) fixed.toList =
      ((run dialect .between fixed.toList).1,
        slot.token dialect names :: outside dialect fixed) := by
  unfold separated at apart
  unfold outside
  cases begins : fixed.toList with
  | nil => simp [begins] at apart
  | cons c rest =>
    simp only [begins, List.head?_cons, Option.any_some, Bool.and_eq_true, Bool.not_eq_true',
      bne_iff_ne] at apart
    have ended : step dialect (slot.state dialect names) c =
        startBehind dialect (slot.token dialect names) c := by
      cases slot with
      | named part => exact if_neg apart.2
      | number n => exact if_neg (by simp [apart.1])
      | place index => exact if_neg (by simp [apart.1])
    have alone : step dialect .between c = start dialect c := rfl
    simp only [run, ended, alone, startBehind, List.cons_append]

/-- The tokens of a fixed text that ends a statement come behind that of the last slot. -/
theorem lex_from_ending (slot : Slot) {fixed : String} (last : ends dialect fixed = true) :
    lexFrom dialect (slot.state dialect names) fixed.toList =
      some (slot.token dialect names :: (lex dialect fixed.toList).getD []) := by
  simp only [ends, Bool.and_eq_true, Bool.or_eq_true, beq_iff_eq] at last
  obtain ⟨rfl | apart, lexed⟩ := last
  · simp only [lexFrom, lex, String.toList_empty, run, finish_slot]
    rfl
  · cases read : finish (run dialect .between fixed.toList).1 with
    | none => simp [lex, lexFrom, read] at lexed
    | some tokens => simp [lex, lexFrom, run_behind slot apart, read, outside]

/-- Behind a slot, the tokens of fixed texts and slots are theirs one after the other. -/
theorem lex_from_pieces (slot : Slot) {pieces : List (String × Slot)} {ending : String}
    (apart : ∀ piece ∈ pieces,
      closed dialect piece.1 = true ∧ separated dialect piece.1 = true)
    (last : ends dialect ending = true) :
    lexFrom dialect (slot.state dialect names)
        ((Template.mk pieces ending).text dialect names) =
      some (slot.token dialect names :: (Template.mk pieces ending).tokens dialect names) := by
  induction pieces generalizing slot with
  | nil => simpa [Template.text, Template.tokens] using lex_from_ending slot last
  | cons piece rest inductionHypothesis =>
    obtain ⟨fixed, next⟩ := piece
    obtain ⟨⟨isClosed, isSeparated⟩, others⟩ := List.forall_mem_cons.mp apart
    have between : (run dialect .between fixed.toList).1 = .between := by
      simp only [closed, Bool.and_eq_true, beq_iff_eq] at isClosed
      exact isClosed.1
    have onward := inductionHypothesis next others
    simp only [Template.text, Template.tokens] at onward ⊢
    simp only [List.flatMap_cons, List.append_assoc]
    rw [lex_from_append, run_behind slot isSeparated, between, lex_from_append, run_slot, onward]
    simp

/-- The tokens of a template that is filled in. -/
theorem lex_text {template : Template} (joined : template.Joined dialect)
    (names : Part → String) :
    lex dialect (template.text dialect names) = some (template.tokens dialect names) := by
  obtain ⟨pieces, ending⟩ := template
  obtain ⟨allClosed, allSeparated, filled, last⟩ := joined
  obtain ⟨⟨fixed, slot⟩, rest, rfl⟩ := List.exists_cons_of_ne_nil filled
  obtain ⟨isClosed, others⟩ := List.forall_mem_cons.mp allClosed
  have between : (run dialect .between fixed.toList).1 = .between := by
    simp only [closed, Bool.and_eq_true, beq_iff_eq] at isClosed
    exact isClosed.1
  have onward : lexFrom dialect (slot.state dialect names)
      ((Template.mk rest ending).text dialect names) =
        some (slot.token dialect names :: (Template.mk rest ending).tokens dialect names) :=
    lex_from_pieces slot (fun piece member => ⟨others piece member, allSeparated piece member⟩)
      last
  simp only [Template.text, Template.tokens] at onward ⊢
  simp only [List.flatMap_cons, List.append_assoc]
  rw [lex, lex_from_append, between, lex_from_append, run_slot, onward]
  simp [outside]

end Reading

section Comparison

variable {dialect : Dialect}

/-- Tokens at the same place of two statements: one and the same that is no name, or the names that
both statements have there. -/
inductive Parallel (first second : Part → String) : Token → Token → Prop
  | same {token : Token} (unnamed : ∀ content, token ≠ .of .name content) :
      Parallel first second token token
  | named (part : Part) :
      Parallel first second (.of .name (first part).toList) (.of .name (second part).toList)

/-- Fixed tokens are no names. -/
theorem Parallel.of_is_fixed {first second : Part → String} {tokens : List Token}
    (fixed : tokens.all Token.isFixed = true) :
    List.Forall₂ (Parallel first second) tokens tokens := by
  refine List.forall₂_same.mpr fun token member => .same fun content isName => ?_
  have holds := List.all_eq_true.mp fixed token member
  rw [isName] at holds
  cases holds

/-- What is written into one slot of two statements. -/
theorem Slot.token_parallel (first second : Part → String) (slot : Slot) :
    Parallel first second (slot.token dialect first) (slot.token dialect second) := by
  cases slot with
  | named part => exact .named part
  | number n => exact .same fun content => by simp [Slot.token]
  | place index => exact .same fun content => by simp [Slot.token]

/-- The tokens of the end of a statement are fixed. -/
theorem is_fixed_ending {fixed : String} (last : ends dialect fixed = true) :
    ((lex dialect fixed.toList).getD []).all Token.isFixed = true := by
  simp only [ends, Bool.and_eq_true] at last
  cases lexed : lex dialect fixed.toList with
  | none => simp [lexed] at last
  | some tokens => simpa [lexed] using last.2

/-- Names that fill a template change the tokens of its names and no other. -/
theorem Template.tokens_parallel {template : Template} (joined : template.Joined dialect)
    (first second : Part → String) :
    List.Forall₂ (Parallel first second) (template.tokens dialect first)
      (template.tokens dialect second) := by
  refine List.rel_append ?_ (Parallel.of_is_fixed (is_fixed_ending joined.ends))
  have allClosed := joined.closed
  generalize template.pieces = pieces at allClosed
  induction pieces with
  | nil => exact .nil
  | cons piece rest inductionHypothesis =>
    obtain ⟨isClosed, others⟩ := List.forall_mem_cons.mp allClosed
    simp only [Lexical.closed, Bool.and_eq_true] at isClosed
    have slot : Parallel first second (piece.2.token dialect first)
        (piece.2.token dialect second) := piece.2.token_parallel first second
    exact List.rel_append
      (List.rel_append (Parallel.of_is_fixed isClosed.2) (.cons slot .nil))
      (inductionHypothesis others)

/-- There is no place among fixed tokens. -/
theorem countp_is_place_of_is_fixed {tokens : List Token}
    (fixed : tokens.all Token.isFixed = true) : tokens.countP Token.isPlace = 0 := by
  refine List.countP_eq_zero.mpr fun token member => ?_
  have holds := List.all_eq_true.mp fixed token member
  cases token with
  | symbol c => simp [Token.isPlace]
  | of kind content => cases kind <;> simp_all [Token.isPlace, Token.isFixed]

/-- A slot of a parameter is written as a place, and no other is. -/
theorem Slot.is_place_token (names : Part → String) (slot : Slot) :
    (slot.token dialect names).isPlace = slot.isPlace := by
  cases slot <;> rfl

/-- The places in a statement are those that its template has slots for. -/
theorem Template.countp_is_place {template : Template} (joined : template.Joined dialect)
    (names : Part → String) :
    (template.tokens dialect names).countP Token.isPlace =
      template.pieces.countP fun piece => piece.2.isPlace := by
  have last := countp_is_place_of_is_fixed (is_fixed_ending joined.ends)
  have allClosed := joined.closed
  rw [Template.tokens, List.countP_append, last, Nat.add_zero]
  generalize template.pieces = pieces at allClosed
  induction pieces with
  | nil => rfl
  | cons piece rest inductionHypothesis =>
    obtain ⟨isClosed, others⟩ := List.forall_mem_cons.mp allClosed
    simp only [Lexical.closed, Bool.and_eq_true] at isClosed
    have fixed := countp_is_place_of_is_fixed isClosed.2
    simp only [List.flatMap_cons, List.countP_append, fixed, inductionHypothesis others,
      List.countP_cons, List.countP_nil, Slot.is_place_token]
    omega

end Comparison

section Numbers

variable {dialect : Dialect}

/-- The number that a token is. -/
def Token.number? : Token → Option Nat
  | .of .word content => Decimal.natValue? content
  | .symbol _ | .of .place _ | .of .name _ | .of .text _ => none

/-- The number that a slot is for. -/
def Slot.number? : Slot → Option Nat
  | .number n => some n
  | .named _ | .place _ => none

/-- The numbers in a statement, in their order. -/
def numbers? (dialect : Dialect) (s : List Char) : Option (List Nat) :=
  (lex dialect s).map (List.filterMap Token.number?)

/-- True where a fixed text has no number in it. -/
def numberless (dialect : Dialect) (fixed : String) : Bool :=
  ((lex dialect fixed.toList).getD []).all fun token => token.number?.isNone

/-- A number is written where there is a slot for it, and nowhere else. -/
theorem Slot.number?_token (names : Part → String) (slot : Slot) :
    (slot.token dialect names).number? = slot.number? := by
  cases slot with
  | number n => exact Decimal.nat_value?_of_nat n
  | named part => rfl
  | place index => rfl

/-- Without a number in the fixed texts, the numbers in a statement are those of its slots. -/
theorem Template.numbers?_text {template : Template} (joined : template.Joined dialect)
    (names : Part → String)
    (fixed : ∀ piece ∈ template.pieces, numberless dialect piece.1 = true)
    (last : numberless dialect template.ending = true) :
    numbers? dialect (template.text dialect names) =
      some (template.pieces.filterMap fun piece => piece.2.number?) := by
  have silent {tokens : List Token} (none : tokens.all (fun token => token.number?.isNone) = true) :
      tokens.filterMap Token.number? = [] := by
    simpa only [List.filterMap_eq_nil_iff, List.all_eq_true, Option.isNone_iff_eq_none] using none
  rw [numbers?, lex_text joined, Option.map_some, Template.tokens, List.filterMap_append,
    silent last, List.append_nil, Option.some.injEq]
  have allClosed := joined.closed
  generalize template.pieces = pieces at allClosed fixed
  induction pieces with
  | nil => rfl
  | cons piece rest inductionHypothesis =>
    obtain ⟨isClosed, othersClosed⟩ := List.forall_mem_cons.mp allClosed
    obtain ⟨noNumber, others⟩ := List.forall_mem_cons.mp fixed
    -- a text that leaves no token open has all of its tokens outside
    have between : (run dialect .between piece.1.toList).1 = .between := by
      simp only [closed, Bool.and_eq_true, beq_iff_eq] at isClosed
      exact isClosed.1
    have whole : lex dialect piece.1.toList = some (outside dialect piece.1) := by
      rw [lex, lexFrom, between]
      exact congrArg some (List.append_nil _)
    rw [numberless, whole, Option.getD_some] at noNumber
    rw [List.flatMap_cons, List.filterMap_append, List.filterMap_append, silent noNumber,
      inductionHypothesis othersClosed others, List.nil_append, List.filterMap_cons,
      List.filterMap_nil, Slot.number?_token]
    cases numbered : piece.2.number? <;> simp [numbered]

end Numbers

end SqlAccess.Lexical
