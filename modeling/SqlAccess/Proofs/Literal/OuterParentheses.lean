import Mathlib.Logic.Relation
import SqlAccess.Proofs.Literal.Layers

/-!
# Redundant outer parentheses

The first parenthesis of a text is closed by its last character exactly when the text between the
two is balanced, so a layer comes off exactly when it is redundant. Main statement: rounds of taking
one layer off end, and what they leave of a text is the one trimmed text without a redundant layer
around which there are nothing but blanks and such layers.
-/

namespace SqlAccess.Literal

/-- One round of taking layers off. -/
def Peels (whole inner : List Char) : Prop := peel? whole = some inner

/-- A text that has no redundant layer: it is no pair of parentheses around a balanced text. -/
def Unlayered (s : List Char) : Prop :=
  ∀ between, s = '(' :: (between ++ [')']) → ¬ Balanced between

/-- There is no further round exactly where no layer is redundant. -/
theorem unlayered_iff {s : List Char} : Unlayered s ↔ ∀ inner, ¬ Peels s inner := by
  constructor
  · intro unlayered inner peels
    obtain ⟨between, whole, balanced, _⟩ := peel?_eq_some_iff.mp peels
    exact unlayered between whole balanced
  · intro ends between whole balanced
    exact ends (Text.trim between) (peel?_eq_some_iff.mpr ⟨between, whole, balanced, rfl⟩)

/-- A text without a redundant layer is one of which none comes off. -/
theorem Unlayered.peel?_eq_none {s : List Char} (unlayered : Unlayered s) : peel? s = none :=
  Option.eq_none_iff_forall_not_mem.mpr (unlayered_iff.mp unlayered)

/-- Rounds of taking layers off lead to what is left. -/
theorem peels_strip_layers (s : List Char) : Relation.ReflTransGen Peels s (stripLayers s) := by
  fun_induction stripLayers s with
  | case1 s inner peels inductionHypothesis =>
    exact Relation.ReflTransGen.head peels inductionHypothesis
  | case2 s stays => exact Relation.ReflTransGen.refl

/-- What is left has no redundant layer. -/
theorem unlayered_strip_parens (raw : List Char) : Unlayered (stripParens raw) := by
  obtain ⟨_, stays⟩ := strip_layers_bare (Text.trimmed_trim raw)
  rw [unlayered_iff]
  intro inner peels
  rw [Peels, stripParens, stays] at peels
  cases peels

/-- What is left is the one text, trimmed and without a redundant layer, around which there are
nothing but such layers. -/
theorem strip_parens_eq_iff {raw s : List Char} :
    stripParens raw = s ↔ Text.Trimmed s ∧ Unlayered s ∧ Layered s raw := by
  constructor
  · rintro rfl
    exact ⟨(strip_layers_bare (Text.trimmed_trim raw)).1, unlayered_strip_parens raw,
      layered_strip_parens raw⟩
  · rintro ⟨trimmed, unlayered, layered⟩
    rw [layered.strip_parens_eq, strip_parens_of_bare trimmed unlayered.peel?_eq_none]

/-- Exactly the redundant outer parentheses are taken off, whatever the text. Rounds of taking off
one layer lead from the trimmed text to what is left and end there; that is trimmed, is no pair of
parentheses around a balanced text, and is the only such text around which there are nothing but
blanks and redundant layers. A round goes by whether the last character closes the first
parenthesis, which is whether the text between them is balanced.

Proof: a round takes a layer off exactly where the scan closes at the last character, which is
balance of the text between. The rounds shorten the text and so end. What is left is unique since
layers and blanks around a text do not change where the rounds end, and around a trimmed text
without an outer layer there is no round at all. -/
theorem strip_parens_redundant (raw : List Char) :
    (Relation.ReflTransGen Peels (Text.trim raw) (stripParens raw) ∧
        ∀ inner, ¬ Peels (stripParens raw) inner) ∧
      (∀ s, stripParens raw = s ↔ Text.Trimmed s ∧ Unlayered s ∧ Layered s raw) ∧
        ∀ between, closesAtEnd 0 false ('(' :: (between ++ [')'])) = true ↔ Balanced between :=
  ⟨⟨peels_strip_layers (Text.trim raw), unlayered_iff.mp (unlayered_strip_parens raw)⟩,
    fun _ => strip_parens_eq_iff, closes_at_end_iff_balanced⟩

end SqlAccess.Literal
