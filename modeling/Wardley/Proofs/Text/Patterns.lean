import Mathlib.Data.List.Infix
import Wardley.Proofs.Text.Words
import Wardley.Text.Split

/-!
# Occurrences of patterns

A text is broken at the first occurrence of a pattern.  A pattern of two characters that
occurs in two texts joined occurs in one of them or at the seam, so that the first
occurrence is found where the text before it neither holds the pattern nor begins it.

Main results:

- `occurs_iff_isInfix`: a pattern occurs where it is part of the text.
- `not_isInfix_of_breakAt`: what stands before the first occurrence does not hold the pattern.
- `breakAt_append_of_some`: the first occurrence in the beginning of a text.
- `pair_isInfix_append`, `breakAt_pair_append`: two characters in texts that follow each other.
- `breakAt_pair_of_not_isInfix`, `breakAt_doubled`: where two characters are found.
- `not_isInfix_of_breakAt_doubled`: what stands before a doubled character.
- `isInfix_append_cons`: a pattern on one side of a character that it lacks.
- `isInfix_intercalate`: a pattern without the separator lies in one of the joined texts.
-/

namespace Wardley
namespace Text

/-! ## First occurrences -/

section Patterns

variable {pattern text kept after : List Char}

theorem afterPrefix_eq_none_iff : afterPrefix pattern text = none ↔ ¬ pattern <+: text := by
  constructor
  · rintro hnone ⟨rest, hrest⟩
    rw [afterPrefix_eq_some.2 hrest.symm] at hnone
    contradiction
  · intro h
    rw [← Option.not_isSome_iff_eq_none]
    intro hsome
    rcases Option.isSome_iff_exists.1 hsome with ⟨rest, hrest⟩
    exact h ⟨rest, (afterPrefix_eq_some.1 hrest).symm⟩

/-- A text starts with its prefixes. -/
theorem startsWith_iff_prefix : startsWith pattern text = true ↔ pattern <+: text := by
  rw [← not_iff_not, ← afterPrefix_eq_none_iff, startsWith, Option.not_isSome_iff_eq_none]

/-- What stands before the first occurrence of a pattern begins the text. -/
theorem prefix_of_breakAt (h : breakAt pattern text = some (kept, after)) : kept <+: text := by
  rw [breakAt_append h, List.append_assoc]
  exact List.prefix_append _ _

/-- What stands behind the first occurrence of a pattern ends the text. -/
theorem suffix_of_breakAt (h : breakAt pattern text = some (kept, after)) : after <:+ text := by
  rw [breakAt_append h]
  exact List.suffix_append _ _

theorem isInfix_of_breakAt (h : breakAt pattern text = some (kept, after)) :
    pattern <:+: text := by
  rw [breakAt_append h]
  exact List.infix_append _ _ _

theorem occurs_iff_isInfix : occurs pattern text = true ↔ pattern <:+: text := by
  constructor
  · intro h
    rcases Option.isSome_iff_exists.1 h with ⟨parts, hbreak⟩
    exact isInfix_of_breakAt hbreak
  · intro h
    induction text with
    | nil =>
        rw [List.infix_nil.1 h]
        rfl
    | cons c text ih =>
        rw [occurs, breakAt]
        cases hafter : afterPrefix pattern (c :: text) with
        | some rest => rfl
        | none =>
            rcases List.infix_cons_iff.1 h with hprefix | hlater
            · exact absurd hprefix (afterPrefix_eq_none_iff.1 hafter)
            · simpa [occurs] using ih hlater

theorem breakAt_eq_none_iff : breakAt pattern text = none ↔ ¬ pattern <:+: text := by
  rw [← occurs_iff_isInfix, occurs, Option.not_isSome_iff_eq_none]

/-- A text without a character of a pattern does not break. -/
theorem breakAt_eq_none {c : Char} (hc : c ∈ pattern) (h : c ∉ text) :
    breakAt pattern text = none :=
  breakAt_eq_none_iff.2 fun hin => h (hin.subset hc)

/-- A text breaks at the first place of a character. -/
theorem breakAt_singleton {c : Char} (h : c ∉ kept) (after : List Char) :
    breakAt [c] (kept ++ c :: after) = some (kept, after) := by
  induction kept with
  | nil => simp [breakAt, afterPrefix]
  | cons d kept ih =>
      rw [List.mem_cons, not_or] at h
      simp [breakAt, afterPrefix, h.1, ih h.2]

/-- What stands before the first occurrence of a pattern does not hold the pattern. -/
theorem not_isInfix_of_breakAt (hne : pattern ≠ [])
    (h : breakAt pattern text = some (kept, after)) : ¬ pattern <:+: kept := by
  induction text generalizing kept with
  | nil =>
      cases pattern with
      | nil => contradiction
      | cons p pattern => cases h
  | cons c text ih =>
      rw [breakAt] at h
      split at h
      · cases h
        rwa [List.infix_nil]
      · rename_i hnone
        rcases Option.map_eq_some_iff.1 h with ⟨⟨kept', after'⟩, hlater, hparts⟩
        cases hparts
        intro hin
        rcases List.infix_cons_iff.1 hin with hstart | hin
        · -- the pattern would begin the whole text
          have hwhole : c :: kept' <+: c :: text :=
            List.cons_prefix_cons.2 ⟨rfl, prefix_of_breakAt hlater⟩
          exact afterPrefix_eq_none_iff.1 hnone (hstart.trans hwhole)
        · exact ih hlater hin

/-- The text before a pattern does not hold the pattern. -/
theorem not_isInfix_before (hne : pattern ≠ []) (text : List Char) :
    ¬ pattern <:+: before pattern text := by
  rw [before]
  split
  · rename_i parts hbreak
    exact not_isInfix_of_breakAt hne hbreak
  · rename_i hnone
    exact breakAt_eq_none_iff.1 hnone

/-- A text without the pattern is all that stands before it. -/
theorem before_eq_self_iff (hne : pattern ≠ []) :
    before pattern text = text ↔ ¬ pattern <:+: text := by
  constructor
  · intro h hin
    rw [← h] at hin
    exact not_isInfix_before hne text hin
  · intro h
    rw [before, breakAt_eq_none_iff.2 h]

/-- The first occurrence in a text is the first one when the text goes on. -/
theorem breakAt_append_of_some (hne : pattern ≠ [])
    (h : breakAt pattern text = some (kept, after)) (more : List Char) :
    breakAt pattern (text ++ more) = some (kept, after ++ more) := by
  induction text generalizing kept with
  | nil => exact absurd (List.infix_nil.1 (isInfix_of_breakAt h)) hne
  | cons c text ih =>
      rw [breakAt] at h
      rw [List.cons_append, breakAt]
      split at h
      · rename_i rest hrest
        cases h
        have hmore : c :: (text ++ more) = pattern ++ (after ++ more) := by
          rw [← List.cons_append, afterPrefix_eq_some.1 hrest, List.append_assoc]
        rw [afterPrefix_eq_some.2 hmore]
      · rename_i hnone
        rcases Option.map_eq_some_iff.1 h with ⟨⟨kept', after'⟩, hlater, hparts⟩
        cases hparts
        have hnone' : afterPrefix pattern (c :: (text ++ more)) = none := by
          rw [afterPrefix_eq_none_iff]
          intro hprefix
          -- the pattern fits into the text, which it would begin already
          have hlength : pattern.length ≤ (c :: text).length :=
            Nat.le_succ_of_le (isInfix_of_breakAt hlater).length_le
          exact afterPrefix_eq_none_iff.1 hnone
            (List.prefix_of_prefix_length_le hprefix (List.prefix_append (c :: text) more) hlength)
        rw [hnone', ih hlater]
        rfl

end Patterns

/-! ## Pairs of characters -/

section Pairs

variable {x y : Char}

/-- Two characters lie in one of two texts or at their seam. -/
theorem pair_isInfix_append {first second : List Char} :
    [x, y] <:+: first ++ second ↔
      [x, y] <:+: first ∨ [x, y] <:+: second ∨ (x ∈ first.getLast? ∧ y ∈ second.head?) := by
  rw [List.infix_append_iff]
  constructor
  · rintro (hfirst | hsecond | ⟨start, finish, hsplit, hstart, hfinish⟩)
    · exact .inl hfirst
    · exact .inr (.inl hsecond)
    · match start, finish, hsplit with
      | [], _, rfl => exact .inr (.inl hfinish.isInfix)
      | [_], [_], rfl =>
          rcases hstart with ⟨_, rfl⟩
          rcases hfinish with ⟨_, rfl⟩
          exact .inr (.inr ⟨by simp, by simp⟩)
      | [_, _], [], rfl => exact .inl hstart.isInfix
  · rintro (hfirst | hsecond | ⟨hlast, hhead⟩)
    · exact .inl hfirst
    · exact .inr (.inl hsecond)
    · rcases List.getLast?_eq_some_iff.1 hlast with ⟨start, rfl⟩
      rcases List.head?_eq_some_iff.1 hhead with ⟨finish, rfl⟩
      exact .inr (.inr ⟨[x], [y], rfl, ⟨start, rfl⟩, ⟨finish, rfl⟩⟩)

/-- Where a text neither holds a pair nor begins it at its end, the pair is found behind it. -/
theorem breakAt_pair_append {first second : List Char} (hfirst : ¬ [x, y] <:+: first)
    (hseam : ¬ (x ∈ first.getLast? ∧ y ∈ second.head?)) :
    breakAt [x, y] (first ++ second) =
      (breakAt [x, y] second).map fun parts => (first ++ parts.1, parts.2) := by
  induction first with
  | nil => simp
  | cons c first ih =>
      have hlater : ¬ [x, y] <:+: first := fun hin => hfirst (List.infix_cons hin)
      have hlast : ¬ (x ∈ first.getLast? ∧ y ∈ second.head?) := fun ⟨hx, hy⟩ =>
        hseam ⟨List.mem_getLast?_cons hx, hy⟩
      have hnone : afterPrefix [x, y] (c :: (first ++ second)) = none := by
        rw [afterPrefix_eq_none_iff, List.cons_prefix_cons]
        rintro ⟨rfl, hbehind⟩
        cases first with
        | nil =>
            rcases hbehind with ⟨rest, hrest⟩
            exact hseam ⟨rfl, by rw [← List.nil_append second, ← hrest]; rfl⟩
        | cons d first =>
            rcases List.cons_prefix_cons.1 hbehind with ⟨rfl, -⟩
            exact hfirst ⟨[], first, rfl⟩
      rw [List.cons_append, breakAt, hnone, ih hlater hlast, Option.map_map]
      rfl

/-- A pair of different characters is found behind a text that does not hold it. -/
theorem breakAt_pair_of_not_isInfix (hxy : x ≠ y) {kept : List Char} (h : ¬ [x, y] <:+: kept)
    (after : List Char) : breakAt [x, y] (kept ++ x :: y :: after) = some (kept, after) := by
  have hseam : ¬ (x ∈ kept.getLast? ∧ y ∈ (x :: y :: after).head?) := fun ⟨_, hhead⟩ =>
    hxy (Option.some.inj hhead)
  have hhere : afterPrefix [x, y] (x :: y :: after) = some after := afterPrefix_eq_some.2 rfl
  rw [breakAt_pair_append h hseam, breakAt, hhere]
  simp

/-- A doubled character is found behind a text that does not hold it with the character behind. -/
theorem breakAt_doubled {kept : List Char} (h : ¬ [x, x] <:+: kept ++ [x]) (after : List Char) :
    breakAt [x, x] (kept ++ x :: x :: after) = some (kept, after) := by
  rw [pair_isInfix_append] at h
  simp only [not_or, List.head?_cons, Option.mem_some_iff, and_true] at h
  have hseam : ¬ (x ∈ kept.getLast? ∧ x ∈ (x :: x :: after).head?) := fun hin => h.2.2 hin.1
  have hhere : afterPrefix [x, x] (x :: x :: after) = some after := afterPrefix_eq_some.2 rfl
  rw [breakAt_pair_append h.1 hseam, breakAt, hhere]
  simp

/-- Before the first doubled character stands no other one, and none that reaches into it. -/
theorem not_isInfix_of_breakAt_doubled {text kept after : List Char}
    (h : breakAt [x, x] text = some (kept, after)) : ¬ [x, x] <:+: kept ++ [x] := by
  have hkept := not_isInfix_of_breakAt (List.cons_ne_nil _ _) h
  rw [pair_isInfix_append]
  rintro (hin | hin | ⟨hlast, -⟩)
  · exact hkept hin
  · exact absurd hin.length_le (by simp)
  · -- the last character before would begin an earlier one
    rcases List.getLast?_eq_some_iff.1 hlast with ⟨start, rfl⟩
    have hearlier := breakAt_doubled hkept (x :: after)
    have htext : text = start ++ x :: x :: x :: after := by
      rw [breakAt_append h]
      simp
    rw [← htext, h] at hearlier
    simp at hearlier

end Pairs

/-! ## Parts of texts -/

theorem trim_isInfix (text : List Char) : trim text <:+: text := by
  rcases padded_trim text with ⟨before, after, htext, -, -⟩
  exact ⟨before, after, htext.symm⟩

/-- Joined texts begin with the first of them. -/
theorem prefix_intercalate (separator piece : List Char) (pieces : List (List Char)) :
    piece <+: List.intercalate separator (piece :: pieces) := by
  cases pieces with
  | nil => rw [List.intercalate_singleton]
  | cons next others =>
      rw [List.intercalate_cons_cons, List.append_assoc]
      exact List.prefix_append _ _

/-- A word does not reach into a text whose first character it lacks. -/
theorem prefix_append_iff {word text rest : List Char} (h : ∀ c ∈ rest.head?, c ∉ word) :
    word <+: text ++ rest ↔ word <+: text := by
  refine ⟨fun hprefix => ?_, fun hprefix => hprefix.trans (List.prefix_append _ _)⟩
  rcases List.prefix_or_prefix_of_prefix hprefix (List.prefix_append _ _) with htext | ⟨more, rfl⟩
  · exact htext
  · rw [List.prefix_append_right_inj] at hprefix
    cases more with
    | nil => exact ⟨[], by simp⟩
    | cons d more =>
        rcases hprefix with ⟨others, rfl⟩
        exact absurd (List.mem_append_right _ List.mem_cons_self) (h d rfl)

theorem prefix_append_cons_iff {word text rest : List Char} {c : Char} (hc : c ∉ word) :
    word <+: text ++ c :: rest ↔ word <+: text :=
  prefix_append_iff (by simpa using hc)

/-- A pattern does not reach over a character that it lacks. -/
theorem isInfix_append_cons {pattern first second : List Char} (hne : pattern ≠ []) {c : Char}
    (hc : c ∉ pattern) (h : pattern <:+: first ++ c :: second) :
    pattern <:+: first ∨ pattern <:+: second := by
  -- nothing of the pattern begins with the character
  have hstart {part : List Char} (hpart : part ≠ []) (hsubset : part ⊆ pattern) :
      ¬ part <+: c :: second := by
    rcases List.exists_cons_of_ne_nil hpart with ⟨d, others, rfl⟩
    rw [List.cons_prefix_cons]
    rintro ⟨rfl, -⟩
    exact hc (hsubset List.mem_cons_self)
  rw [List.infix_append_iff_ne_nil, List.infix_cons_iff] at h
  rcases h with hfirst | (hbegins | hsecond) | ⟨start, finish, -, hfinish, rfl, -, hbegins⟩
  · exact .inl hfirst
  · exact absurd hbegins (hstart hne (List.Subset.refl _))
  · exact .inr hsecond
  · exact absurd hbegins (hstart hfinish (List.subset_append_right _ _))

/-- A pattern without the separating character lies in one of the joined texts. -/
theorem isInfix_intercalate {pattern : List Char} (hne : pattern ≠ []) {separator : Char}
    (hseparator : separator ∉ pattern) {pieces : List (List Char)}
    (h : pattern <:+: List.intercalate [separator] pieces) :
    ∃ piece ∈ pieces, pattern <:+: piece := by
  induction pieces with
  | nil => exact absurd (List.infix_nil.1 h) hne
  | cons piece rest ih =>
      cases rest with
      | nil =>
          rw [List.intercalate_singleton] at h
          exact ⟨piece, List.mem_cons_self, h⟩
      | cons next others =>
          rw [List.intercalate_cons_cons, List.append_assoc,
            List.singleton_append] at h
          rcases isInfix_append_cons hne hseparator h with hpiece | hrest
          · exact ⟨piece, List.mem_cons_self, hpiece⟩
          · rcases ih hrest with ⟨other, hother, hin⟩
            exact ⟨other, List.mem_cons_of_mem _ hother, hin⟩

end Text
end Wardley
