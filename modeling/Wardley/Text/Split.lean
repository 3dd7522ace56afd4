/-!
# Cutting texts

Texts are lists of characters.  This module cuts them: at line feeds, at the first occurrence
of a pattern, and after a leading pattern.

Main results:

- `breakAt_append`: a text is what stands before the first occurrence of a
  pattern, the pattern, and what stands after it.
-/

namespace Wardley
namespace Text

/-! ## Lines -/

/-- The lines of a text; a text without a line feed is one line. -/
def lines (text : List Char) : List (List Char) := List.splitOn '\n' text

/-! ## Patterns -/

/-- What follows a leading pattern. -/
def afterPrefix : List Char → List Char → Option (List Char)
  | [], text => some text
  | _ :: _, [] => none
  | p :: pattern, c :: text => if p = c then afterPrefix pattern text else none

/-- What follows a pattern at the start of a text. -/
theorem afterPrefix_eq_some {pattern text rest : List Char} :
    afterPrefix pattern text = some rest ↔ text = pattern ++ rest := by
  induction pattern generalizing text with
  | nil => simp [afterPrefix]
  | cons p pattern ih =>
    cases text with
    | nil => simp [afterPrefix]
    | cons c text =>
      by_cases h : p = c
      · simp [afterPrefix, h, ih]
      · simp [afterPrefix, h, Ne.symm h]

/-- The text starts with the pattern. -/
def startsWith (pattern text : List Char) : Bool := (afterPrefix pattern text).isSome

/-- The parts of a text before and after the first occurrence of a pattern. -/
def breakAt (pattern : List Char) : List Char → Option (List Char × List Char)
  | [] => (afterPrefix pattern []).map fun rest => ([], rest)
  | c :: text =>
    match afterPrefix pattern (c :: text) with
    | some rest => some ([], rest)
    | none => (breakAt pattern text).map fun parts => (c :: parts.1, parts.2)

/-- The parts on both sides of a pattern, with the pattern between them, are the text. -/
theorem breakAt_append {pattern text before after : List Char}
    (h : breakAt pattern text = some (before, after)) :
    text = before ++ pattern ++ after := by
  induction text generalizing before with
  | nil =>
    obtain ⟨rest, hr, he⟩ := Option.map_eq_some_iff.1 h
    cases he
    simpa using afterPrefix_eq_some.1 hr
  | cons c text ih =>
    unfold breakAt at h
    split at h
    · rename_i rest hr
      cases h
      simpa using afterPrefix_eq_some.1 hr
    · obtain ⟨⟨b, a⟩, hp, he⟩ := Option.map_eq_some_iff.1 h
      cases he
      simp [ih hp]

/-- The part before the first occurrence of a pattern, or the whole text. -/
def before (pattern text : List Char) : List Char :=
  match breakAt pattern text with
  | some parts => parts.1
  | none => text

/-- The pattern occurs in the text. -/
def occurs (pattern text : List Char) : Bool := (breakAt pattern text).isSome

/-- The pieces of a text between the arrows `->`. -/
def splitArrows : List Char → List (List Char)
  | [] => [[]]
  | '-' :: '>' :: rest => [] :: splitArrows rest
  | c :: rest =>
    match splitArrows rest with
    | [] => [[c]]
    | piece :: others => (c :: piece) :: others

end Text
end Wardley
