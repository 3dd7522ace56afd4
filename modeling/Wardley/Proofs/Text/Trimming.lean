import Mathlib.Data.List.DropRight
import Wardley.Text.Blank

/-!
# Trimmed texts

What trimming leaves behind: a text whose first and last characters are not blank.  A
text made of blanks is trimmed to nothing, and a second trimming changes nothing.

Main results:

- `trim_trim`: trimming is idempotent.
- `trim_eq_nil_iff`: a text is trimmed to nothing exactly when all of it is blank.
- `trim_eq_self_iff`: the trimmed texts are those without a blank at either end.
-/

namespace Wardley
namespace Text

/-! ## The end of a text -/

/-- Trimming the end drops the longest blank suffix. -/
theorem trimEnd_eq_rdropWhile (text : List Char) :
    trimEnd text = text.rdropWhile isBlank := by
  induction text with
  | nil => simp
  | cons c rest ih =>
      rw [trimEnd, ih]
      by_cases hrest : rest.rdropWhile isBlank = []
      · have hall : ∀ d ∈ rest, isBlank d := List.rdropWhile_eq_nil_iff.1 hrest
        rw [hrest]
        by_cases hc : isBlank c
        · have hnil : (c :: rest).rdropWhile isBlank = [] :=
            List.rdropWhile_eq_nil_iff.2 (by simpa [hc] using hall)
          simp [hc, hnil]
        · have hone : (c :: rest).rdropWhile isBlank = [c] := by
            have hblank : rest.reverse.dropWhile isBlank = [] := by
              simpa [List.dropWhile_eq_nil_iff] using hall
            simp [List.rdropWhile, List.dropWhile_append, hblank, hc]
          simp [hc, hone]
      · have hkeep : (c :: rest).rdropWhile isBlank = c :: rest.rdropWhile isBlank := by
          have hdrop : rest.reverse.dropWhile isBlank ≠ [] := by
            simpa [List.rdropWhile] using hrest
          simp [List.rdropWhile, List.dropWhile_append, hdrop]
        rw [hkeep]
        split
        · contradiction
        · rfl

theorem trim_eq (text : List Char) :
    trim text = (text.dropWhile isBlank).rdropWhile isBlank := by
  rw [trim, trimEnd_eq_rdropWhile, trimStart]

theorem trimEnd_prefix (text : List Char) : trimEnd text <+: text := by
  rw [trimEnd_eq_rdropWhile]
  exact List.rdropWhile_prefix isBlank text

/-- A trimmed end is not blank. -/
theorem isBlank_getLast?_trimEnd {text : List Char} {c : Char}
    (h : c ∈ (trimEnd text).getLast?) : isBlank c = false := by
  rcases List.mem_getLast?_eq_getLast h with ⟨hne, rfl⟩
  have hlast := List.rdropWhile_last_not isBlank text (by rwa [← trimEnd_eq_rdropWhile])
  simpa [← trimEnd_eq_rdropWhile] using hlast

/-- A trimmed start is not blank. -/
theorem isBlank_head?_trimStart {text : List Char} {c : Char}
    (h : c ∈ (trimStart text).head?) : isBlank c = false := by
  have hhead := List.head?_dropWhile_not isBlank text
  rw [trimStart] at h
  simpa [Option.mem_def.1 h] using hhead

/-! ## Both ends -/

/-- A text is trimmed to nothing exactly when all of it is blank. -/
theorem trim_eq_nil_iff {text : List Char} : trim text = [] ↔ ∀ c ∈ text, isBlank c := by
  rw [trim_eq, List.rdropWhile_eq_nil_iff]
  constructor
  · intro h c hc
    have hsplit : text.takeWhile isBlank ++ text.dropWhile isBlank = text :=
      List.takeWhile_append_dropWhile
    rw [← hsplit, List.mem_append] at hc
    rcases hc with hc | hc
    · exact List.mem_takeWhile_imp hc
    · exact h c hc
  · intro h c hc
    exact h c ((List.dropWhile_sublist _).mem hc)

/-- The trimmed texts are those without a blank at either end. -/
theorem trim_eq_self_iff {text : List Char} :
    trim text = text ↔
      (∀ c ∈ text.head?, isBlank c = false) ∧ (∀ c ∈ text.getLast?, isBlank c = false) := by
  constructor
  · intro h
    have hstart : text.dropWhile isBlank = text := by
      apply List.IsSuffix.eq_of_length_le (List.dropWhile_suffix _)
      calc
        text.length = (trim text).length := by rw [h]
        _ ≤ (text.dropWhile isBlank).length := by
          rw [trim_eq]
          exact (List.rdropWhile_prefix isBlank _).length_le
    have hend : text.rdropWhile isBlank = text := by
      rw [trim_eq, hstart] at h
      exact h
    refine ⟨?_, ?_⟩
    · intro c hc
      cases text with
      | nil => simp at hc
      | cons d rest =>
          obtain rfl : d = c := by simpa using hc
          have := List.dropWhile_eq_self_iff.1 hstart (by simp)
          simpa using this
    · intro c hc
      rcases List.mem_getLast?_eq_getLast hc with ⟨hne, rfl⟩
      simpa using List.rdropWhile_eq_self_iff.1 hend hne
  · rintro ⟨hhead, hlast⟩
    have hstart : text.dropWhile isBlank = text := by
      rw [List.dropWhile_eq_self_iff]
      intro hpos
      cases text with
      | nil => simp at hpos
      | cons c rest => simpa using hhead c (by simp)
    rw [trim_eq, hstart, List.rdropWhile_eq_self_iff]
    intro hne
    simpa using hlast _ (List.getLast_mem_getLast? hne)

/-- A text between trimmed ends is trimmed. -/
theorem trim_between {first last : List Char} (hfirst : trim first = first) (hne : first ≠ [])
    (hlast : trim last = last) (hne' : last ≠ []) (middle : List Char) :
    trim (first ++ (middle ++ last)) = first ++ (middle ++ last) := by
  rw [trim_eq_self_iff]
  constructor
  · intro c hc
    rw [List.head?_append_of_ne_nil _ hne] at hc
    exact (trim_eq_self_iff.1 hfirst).1 c hc
  · intro c hc
    rw [← List.append_assoc, List.getLast?_append_of_ne_nil _ hne'] at hc
    exact (trim_eq_self_iff.1 hlast).2 c hc

/-- Trimming changes nothing but the end of a text that does not start with a blank. -/
theorem trim_trimEnd {text : List Char} (h : ∀ c ∈ text.head?, isBlank c = false) :
    trim (trimEnd text) = trimEnd text := by
  rw [trim_eq_self_iff]
  refine ⟨?_, fun c hc => isBlank_getLast?_trimEnd hc⟩
  intro c hc
  rcases trimEnd_prefix text with ⟨rest, hrest⟩
  have hhead : c ∈ text.head? := by
    rw [← hrest]
    exact List.mem_head?_append_of_mem_head? hc
  exact h c hhead

/-- Trimming is idempotent. -/
@[simp] theorem trim_trim (text : List Char) : trim (trim text) = trim text :=
  trim_trimEnd fun _ hc => isBlank_head?_trimStart hc

/-! ## Names -/

/-- A name has a character and no blank at either end. -/
def IsName (name : String) : Prop := name ≠ "" ∧ trim name.toList = name.toList

theorem isName_ofList {text : List Char} (hne : text ≠ []) (htrim : trim text = text) :
    IsName (String.ofList text) := by
  refine ⟨?_, by simpa using htrim⟩
  intro h
  apply hne
  simpa using congrArg String.toList h

theorem isName_trim {text : List Char} (hne : trim text ≠ []) :
    IsName (String.ofList (trim text)) :=
  isName_ofList hne (trim_trim text)

end Text
end Wardley
