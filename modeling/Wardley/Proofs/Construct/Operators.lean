import Wardley.Construct.Links
import Wardley.Proofs.Text.Patterns

/-!
# Operators in a text

Two characters tell where an operator begins: an arrow, or a plus sign with what may follow
it.  A text without any such pair holds no operator, so that the operator of a line is the
one behind the name of its start.

Main definitions:

- `operatorPairs`: the pairs of characters with which operators begin.
- `HasNoOperator`: a text without such a pair.

Main results:

- `operatorsAt_eq_nil`: no operator stands where no pair does.
- `findOperator_append`: the first operator behind a text that has none.
-/

namespace Wardley
namespace Construct

open Text

/-- The pairs of characters with which operators begin. -/
def operatorPairs : List (Char × Char) := [('-', '>'), ('+', '<'), ('+', '>'), ('+', '\'')]

/-- No operator begins within the text. -/
def HasNoOperator (text : List Char) : Prop :=
  ∀ pair ∈ operatorPairs, ¬ [pair.1, pair.2] <:+: text

instance (text : List Char) : Decidable (HasNoOperator text) :=
  inferInstanceAs (Decidable (∀ pair ∈ operatorPairs, _))

/-- A text without the second character of a pair has no operator. -/
theorem hasNoOperator_of_not_mem {text : List Char}
    (h : ∀ c ∈ ['<', '>', '\''], c ∉ text) : HasNoOperator text := by
  have hsecond : ∀ pair ∈ operatorPairs, pair.2 ∈ ['<', '>', '\''] := by decide
  intro pair hpair hin
  exact h pair.2 (hsecond pair hpair) (hin.subset (List.mem_cons_of_mem _ List.mem_cons_self))

theorem takeQuoted_of_not_quote {text : List Char} (h : '\'' ∉ text.head?) :
    takeQuoted text = (none, text) := by
  unfold takeQuoted
  split
  · simp at h
  · rfl

/-- No operator stands where no pair does. -/
theorem operatorsAt_eq_nil {text : List Char}
    (h : ∀ pair ∈ operatorPairs, ¬ [pair.1, pair.2] <+: text) : operatorsAt text = [] := by
  have hpair (c d : Char) (hmem : (c, d) ∈ operatorPairs) (rest : List Char) :
      text ≠ c :: d :: rest := by
    rintro rfl
    exact h (c, d) hmem ⟨rest, rfl⟩
  unfold operatorsAt
  split
  · exact absurd rfl (hpair '-' '>' (by decide) _)
  · rename_i rest
    have hquote : '\'' ∉ rest.head? := by
      intro hhead
      rcases List.head?_eq_some_iff.1 hhead with ⟨behind, rfl⟩
      exact hpair '+' '\'' (by decide) _ rfl
    rw [takeQuoted_of_not_quote hquote]
    dsimp only
    split
    · exact absurd rfl (hpair '+' '<' (by decide) _)
    · exact absurd rfl (hpair '+' '<' (by decide) _)
    · exact absurd rfl (hpair '+' '>' (by decide) _)
    · rfl
  · rfl

/-- The first operator behind a text that has none and does not begin one at its end. -/
theorem findOperator_append {before rest : List Char} (h : HasNoOperator before)
    (hseam : ∀ c ∈ rest.head?, c ∉ ['<', '>', '\'']) :
    findOperator (before ++ rest) =
      (findOperator rest).map fun found => (before ++ found.1, found.2.1, found.2.2) := by
  induction before with
  | nil => simp
  | cons c before ih =>
      have hlater : HasNoOperator before := fun pair hpair hin =>
        h pair hpair (List.infix_cons hin)
      have hnone : operatorsAt (c :: (before ++ rest)) = [] := by
        apply operatorsAt_eq_nil
        rintro ⟨x, y⟩ hpair hprefix
        rcases List.cons_prefix_cons.1 hprefix with ⟨rfl, hbehind⟩
        cases before with
        | nil =>
            rcases hbehind with ⟨behind, rfl⟩
            have hsecond : ∀ pair ∈ operatorPairs, pair.2 ∈ ['<', '>', '\''] := by decide
            exact hseam y rfl (hsecond _ hpair)
        | cons d before =>
            rcases List.cons_prefix_cons.1 hbehind with ⟨rfl, -⟩
            exact h _ hpair ⟨[], before, rfl⟩
      rw [List.cons_append, findOperator, hnone, ih hlater, List.find?_nil, Option.map_map]
      rfl

end Construct
end Wardley
