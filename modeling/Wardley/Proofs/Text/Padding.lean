import Wardley.Proofs.Text.Trimming
import Wardley.Text.Split

/-!
# Blanks around a text

A text is padded when it is a core with blanks before and behind it.  Whatever is found
by characters or patterns without blanks is found in the core: searching, cutting and
trimming only differ by the blanks at the ends.

Main definitions:

- `Padded`: a text is a core with blanks around it.

Main results:

- `padded_trim`: a text is its trimmed form with blanks around it.
- `Padded.trim_eq`: blanks around a text are trimmed away.
- `Padded.breakAt_eq`: a pattern is found in the core or not at all.
- `Padded.takeWhile_ne`, `Padded.drop_dropWhile_ne`: the texts around a character.
-/

namespace Wardley
namespace Text

/-- A text is a core with blanks around it. -/
def Padded (core text : List Char) : Prop :=
  ∃ before after : List Char, text = before ++ core ++ after ∧
    (∀ c ∈ before, isBlank c) ∧ ∀ c ∈ after, isBlank c

/-- A space is blank. -/
theorem isBlank_of_mem_space : ∀ c ∈ [' '], isBlank c = true := List.all_eq_true.1 (by decide)

/-! ## Trimming -/

/-- Blanks in front are trimmed away. -/
theorem trimStart_blank_append {before : List Char} (h : ∀ c ∈ before, isBlank c)
    (text : List Char) : trimStart (before ++ text) = trimStart text :=
  List.dropWhile_append_of_pos h

/-- Behind a character that is not blank, nothing is trimmed at the start. -/
theorem trimStart_append {text : List Char} (h : ¬ ∀ c ∈ text, isBlank c) (behind : List Char) :
    trimStart (text ++ behind) = trimStart text ++ behind := by
  have hne : text.dropWhile isBlank ≠ [] := by
    rwa [Ne, List.dropWhile_eq_nil_iff]
  rw [trimStart, List.dropWhile_append, List.isEmpty_eq_false_iff.2 hne]
  rfl

/-- Blanks behind are trimmed away. -/
theorem trimEnd_append_blank {after : List Char} (h : ∀ c ∈ after, isBlank c)
    (text : List Char) : trimEnd (text ++ after) = trimEnd text := by
  have hafter : ∀ c ∈ after.reverse, isBlank c := fun c hc => h c (List.mem_reverse.1 hc)
  rw [trimEnd_eq_rdropWhile, trimEnd_eq_rdropWhile, List.rdropWhile, List.rdropWhile,
    List.reverse_append, List.dropWhile_append_of_pos hafter]

/-- Blanks behind do not change the trimmed text. -/
theorem trim_append_blank {after : List Char} (h : ∀ c ∈ after, isBlank c) (text : List Char) :
    trim (text ++ after) = trim text := by
  by_cases hblank : ∀ c ∈ text, isBlank c
  · rw [trim_eq_nil_iff.2 hblank, trim_eq_nil_iff]
    intro c hc
    rcases List.mem_append.1 hc with hc | hc
    · exact hblank c hc
    · exact h c hc
  · rw [trim, trimStart_append hblank, trimEnd_append_blank h, trim]

/-- A blank before a text is trimmed away. -/
theorem trim_cons_blank {c : Char} (hc : isBlank c = true) (text : List Char) :
    trim (c :: text) = trim text := by
  rw [trim, trimStart, List.dropWhile_cons_of_pos hc, trim, trimStart]

/-- No blanks stand behind a trimmed text. -/
theorem eq_nil_of_trim_append {first second : List Char}
    (h : trim (first ++ second) = first ++ second) (hblank : ∀ c ∈ second, isBlank c) :
    second = [] := by
  by_contra hne
  rw [trim_eq_self_iff, List.getLast?_append_of_ne_nil _ hne] at h
  have hlast := h.2 _ (List.getLast_mem_getLast? hne)
  rw [hblank _ (List.getLast_mem hne)] at hlast
  cases hlast

theorem Padded.refl (text : List Char) : Padded text text :=
  ⟨[], [], by simp, by simp, by simp⟩

/-- A text is its trimmed form with blanks around it. -/
theorem padded_trim (text : List Char) : Padded (trim text) text := by
  refine ⟨text.takeWhile isBlank, (text.dropWhile isBlank).rtakeWhile isBlank, ?_, ?_, ?_⟩
  · rw [trim_eq, List.append_assoc, List.rdropWhile_append_rtakeWhile,
      List.takeWhile_append_dropWhile]
  · intro c hc
    exact List.mem_takeWhile_imp hc
  · intro c hc
    exact List.mem_rtakeWhile_imp hc

/-- Blanks at the end of a text are blanks behind it. -/
theorem padded_append_trimEnd (first text : List Char) :
    Padded (first ++ trimEnd text) (first ++ text) := by
  refine ⟨[], text.rtakeWhile isBlank, ?_, by simp, fun c hc => List.mem_rtakeWhile_imp hc⟩
  rw [List.nil_append, List.append_assoc, trimEnd_eq_rdropWhile, List.rdropWhile_append_rtakeWhile]

variable {core text : List Char}

/-- Blanks around a text are trimmed away. -/
theorem Padded.trim_eq (h : Padded core text) : trim text = trim core := by
  rcases h with ⟨before, after, rfl, hbefore, hafter⟩
  rw [trim_append_blank hafter, trim, trimStart_blank_append hbefore, trim]

/-- Blanks at the end of a text do not matter to its trimmed form. -/
theorem trim_trimEnd_eq (text : List Char) : trim (trimEnd text) = trim text :=
  (padded_append_trimEnd [] text).trim_eq.symm

/-- Behind a trimmed text, trimming only reaches the end of a text. -/
theorem trim_append {first : List Char} (hfirst : trim first = first) (hne : first ≠ [])
    (text : List Char) : trim (first ++ text) = first ++ trimEnd text := by
  rw [(padded_append_trimEnd first text).trim_eq, trim_eq_self_iff]
  rw [trim_eq_self_iff] at hfirst
  constructor
  · rw [List.head?_append_of_ne_nil _ hne]
    exact hfirst.1
  · intro c hc
    rw [List.getLast?_append, Option.mem_def, Option.or_eq_some_iff] at hc
    rcases hc with hc | ⟨-, hc⟩
    · exact isBlank_getLast?_trimEnd hc
    · exact hfirst.2 c hc

/-! ## Patterns -/

section Patterns

variable {pattern : List Char} (hsolid : pattern.any isBlank = false)
include hsolid

/-- A pattern without blanks does not reach into the blanks behind a text. -/
theorem afterPrefix_append_blank {after : List Char} (h : ∀ c ∈ after, isBlank c)
    (text : List Char) :
    afterPrefix pattern (text ++ after) = (afterPrefix pattern text).map (· ++ after) := by
  induction pattern generalizing text with
  | nil => rfl
  | cons p pattern ih =>
      rw [List.any_cons, Bool.or_eq_false_iff] at hsolid
      rcases hsolid with ⟨hp, hsolid⟩
      cases text with
      | nil =>
          cases after with
          | nil => rfl
          | cons c after =>
              have hne : p ≠ c := by
                intro heq
                have := h c List.mem_cons_self
                rw [← heq, hp] at this
                contradiction
              simp only [List.nil_append, afterPrefix, if_neg hne, Option.map_none]
      | cons c text =>
          simp only [List.cons_append, afterPrefix]
          by_cases hc : p = c
          · rw [if_pos hc, if_pos hc]
            exact ih hsolid text
          · rw [if_neg hc, if_neg hc]
            rfl

variable (hne : pattern ≠ [])
include hne

/-- A pattern without blanks is not found in the blanks before a text. -/
theorem breakAt_blank_append {before : List Char} (h : ∀ c ∈ before, isBlank c)
    (text : List Char) :
    breakAt pattern (before ++ text) =
      (breakAt pattern text).map fun parts => (before ++ parts.1, parts.2) := by
  induction before with
  | nil => simp
  | cons c before ih =>
      have hc := h c List.mem_cons_self
      have hnone : afterPrefix pattern (c :: (before ++ text)) = none := by
        cases pattern with
        | nil => exact absurd rfl hne
        | cons p pattern =>
            rw [List.any_cons, Bool.or_eq_false_iff] at hsolid
            refine if_neg fun heq => ?_
            rw [heq, hc] at hsolid
            exact Bool.noConfusion hsolid.1
      rw [List.cons_append, breakAt, hnone]
      simp only [ih fun d hd => h d (List.mem_cons_of_mem _ hd), Option.map_map]
      rfl

/-- A pattern without blanks is not found in the blanks behind a text. -/
theorem breakAt_append_blank {after : List Char} (h : ∀ c ∈ after, isBlank c)
    (text : List Char) :
    breakAt pattern (text ++ after) =
      (breakAt pattern text).map fun parts => (parts.1, parts.2 ++ after) := by
  induction text with
  | nil =>
      have hnil : breakAt pattern [] = none := by
        cases pattern with
        | nil => exact absurd rfl hne
        | cons p pattern => rfl
      have hblank := breakAt_blank_append hsolid hne h []
      rw [List.append_nil, hnil] at hblank
      rw [List.nil_append, hblank, hnil]
      rfl
  | cons c text ih =>
      have hprefix := afterPrefix_append_blank hsolid h (c :: text)
      rw [List.cons_append] at hprefix ⊢
      rw [breakAt, breakAt, hprefix, ih]
      cases afterPrefix pattern (c :: text) with
      | some rest => rfl
      | none =>
          simp only [Option.map_none, Option.map_map]
          rfl

/-- Around a core, a pattern without blanks is found where the core has it. -/
theorem Padded.breakAt_eq (h : Padded core text) :
    (breakAt pattern core = none ∧ breakAt pattern text = none) ∨
      ∃ kept rest kept' rest', breakAt pattern core = some (kept, rest) ∧
        breakAt pattern text = some (kept', rest') ∧ Padded kept kept' ∧ Padded rest rest' := by
  rcases h with ⟨before, after, rfl, hbefore, hafter⟩
  rw [breakAt_append_blank hsolid hne hafter, breakAt_blank_append hsolid hne hbefore]
  cases hcore : breakAt pattern core with
  | none => exact .inl ⟨rfl, rfl⟩
  | some parts =>
      refine .inr ⟨parts.1, parts.2, before ++ parts.1, parts.2 ++ after, rfl, rfl, ?_, ?_⟩
      · exact ⟨before, [], by simp, hbefore, by simp⟩
      · exact ⟨[], after, by simp, by simp, hafter⟩

/-- A pattern occurs in a padded text exactly when it occurs in the core. -/
theorem Padded.occurs_eq (h : Padded core text) : occurs pattern text = occurs pattern core := by
  rcases h.breakAt_eq hsolid hne with ⟨hcore, htext⟩ | ⟨_, _, _, _, hcore, htext, -, -⟩
  · rw [occurs, occurs, hcore, htext]
  · rw [occurs, occurs, hcore, htext]
    rfl

end Patterns

/-! ## Characters -/

section FirstOccurrence

variable {text : List Char} {c : Char} (h : c ∉ text)
include h

theorem ne_of_not_mem : ∀ d ∈ text, (d != c) = true := by
  intro d hd
  rw [bne_iff_ne]
  rintro rfl
  exact h hd

/-- A text without a character runs on to its end. -/
theorem takeWhile_ne_of_not_mem : text.takeWhile (· != c) = text :=
  List.takeWhile_eq_self_iff.2 (ne_of_not_mem h)

/-- A text ends before the first character that it lacks. -/
theorem takeWhile_ne_append (behind : List Char) :
    (text ++ c :: behind).takeWhile (· != c) = text := by
  rw [List.takeWhile_append_of_pos (ne_of_not_mem h), List.takeWhile_cons_of_neg (by simp),
    List.append_nil]

/-- A text without a character runs on to the next one behind it. -/
theorem dropWhile_ne_append (behind : List Char) :
    (text ++ c :: behind).dropWhile (· != c) = c :: behind := by
  rw [List.dropWhile_append_of_pos (ne_of_not_mem h), List.dropWhile_cons_of_neg (by simp)]

end FirstOccurrence

section Characters

variable {c : Char} (hc : isBlank c = false)
include hc

/-- Blanks hold no character that is not blank. -/
theorem not_mem_of_blank {blanks : List Char} (h : ∀ d ∈ blanks, isBlank d) : c ∉ blanks := by
  intro hmem
  have := h c hmem
  rw [hc] at this
  contradiction

theorem ne_of_blank {blanks : List Char} (h : ∀ d ∈ blanks, isBlank d) :
    ∀ d ∈ blanks, (d != c) = true :=
  ne_of_not_mem (not_mem_of_blank hc h)

/-- A padded text holds a character exactly when the core does. -/
theorem Padded.contains_eq (h : Padded core text) : text.contains c = core.contains c := by
  rcases h with ⟨before, after, rfl, hbefore, hafter⟩
  rw [Bool.eq_iff_iff, List.contains_iff_mem, List.contains_iff_mem, List.mem_append,
    List.mem_append]
  simp only [not_mem_of_blank hc hbefore, not_mem_of_blank hc hafter, false_or, or_false]

/-- Up to a character, a padded text is the core with the blanks before it. -/
theorem Padded.takeWhile_ne (h : Padded core text) :
    Padded (core.takeWhile (· != c)) (text.takeWhile (· != c)) := by
  rcases h with ⟨before, after, rfl, hbefore, hafter⟩
  rw [List.append_assoc, List.takeWhile_append_of_pos (ne_of_blank hc hbefore)]
  by_cases hall : ∀ d ∈ core, (d != c) = true
  · rw [List.takeWhile_append_of_pos hall, List.takeWhile_eq_self_iff.2 hall,
      List.takeWhile_eq_self_iff.2 (ne_of_blank hc hafter)]
    exact ⟨before, after, by simp, hbefore, hafter⟩
  · have hstop : (core ++ after).takeWhile (· != c) = core.takeWhile (· != c) := by
      rw [List.takeWhile_append, if_neg]
      intro hlength
      exact hall (List.takeWhile_eq_self_iff.1
        ((List.takeWhile_prefix _).eq_of_length hlength))
    rw [hstop]
    exact ⟨before, [], by simp, hbefore, by simp⟩

/-- Behind a character, a padded text is the core with the blanks behind it. -/
theorem Padded.drop_dropWhile_ne (h : Padded core text) :
    Padded ((core.dropWhile (· != c)).drop 1) ((text.dropWhile (· != c)).drop 1) := by
  rcases h with ⟨before, after, rfl, hbefore, hafter⟩
  rw [List.append_assoc, List.dropWhile_append_of_pos (ne_of_blank hc hbefore),
    List.dropWhile_append]
  cases hcore : core.dropWhile (· != c) with
  | nil =>
      rw [List.dropWhile_eq_nil_iff.2 (ne_of_blank hc hafter)]
      exact Padded.refl []
  | cons d rest => exact ⟨[], after, rfl, by simp, hafter⟩

end Characters

end Text
end Wardley
