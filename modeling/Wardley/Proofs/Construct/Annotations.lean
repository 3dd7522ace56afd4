import Wardley.Proofs.Construct.Surroundings
import Wardley.Proofs.Notation.NamedPlace
import Wardley.Proofs.Success
import Wardley.Proofs.Text.Patterns

/-!
# Bodies of annotations

The body of an annotation is a number without blanks, its places and a text.  A list of places
ends at the first two closing brackets, a single place at the first one, and everything behind
is text, whatever brackets it holds.

Main results:

- `splitPlaces_list`, `splitPlaces_one`: where the places end.
- `readAnnotation_eq_ok_iff`: an annotation has a whole number and at least one place, and all
  of its places are pairs of numbers.
- `readAnnotation_ne_ok`: no annotation has places that do not end.
- `readAnnotation_of_fraction`: a number that is not whole gives a diagnostic.
-/

namespace Wardley
namespace Construct

open Notation Text

/-! ## Bracket groups -/

/-- No bracket group begins where no bracket opens. -/
theorem bracketGroups_append {front : List Char} (h : '[' ∉ front) (text : List Char) :
    bracketGroups (front ++ text) = bracketGroups text := by
  induction front with
  | nil => rfl
  | cons c front ih =>
      rw [List.mem_cons, not_or] at h
      have hnone : takeBrackets? (c :: (front ++ text)) = none :=
        takeBrackets?_eq_none fun hhead => h.1 (Option.some.inj hhead).symm
      rw [List.cons_append, bracketGroups, hnone, ih h.2]

/-- The first group is read and the others are those behind it. -/
theorem bracketGroups_group {content : List Char} (hcontent : ∀ c ∈ content, isNoBracket c = true)
    (after : List Char) :
    bracketGroups ('[' :: (content ++ ']' :: after)) = content :: bracketGroups after := by
  have hnone : '[' ∉ content ++ [']'] := by
    rw [List.mem_append, not_or]
    exact ⟨(forall_isNoBracket_iff.1 hcontent).1, by decide⟩
  have hbehind := bracketGroups_append hnone after
  rw [List.append_assoc, List.singleton_append] at hbehind
  rw [bracketGroups, takeBrackets?_group hcontent, hbehind]

/-! ## Places -/

/-- A list of places ends at the first two closing brackets. -/
theorem splitPlaces_list {inner : List Char} (hdouble : ¬ [']', ']'] <:+: '[' :: (inner ++ [']']))
    (text : List Char) :
    splitPlaces ('[' :: '[' :: (inner ++ ']' :: ']' :: text)) =
      .ok (bracketGroups ('[' :: (inner ++ [']'])), text) := by
  have hwhole : ¬ [']', ']'] <:+: ('[' :: '[' :: inner) ++ [']'] := by
    rw [List.cons_append, List.infix_cons_iff, not_or]
    exact ⟨fun hprefix => absurd (List.cons_prefix_cons.1 hprefix).1 (by decide), hdouble⟩
  have hbreak : breakAt [']', ']'] ('[' :: '[' :: (inner ++ ']' :: ']' :: text)) =
      some ('[' :: '[' :: inner, text) := breakAt_doubled hwhole text
  rw [splitPlaces, hbreak]
  rfl

/-- A single place ends at the first closing bracket. -/
theorem splitPlaces_one {place : List Char} (hplace : ∀ c ∈ place, isNoBracket c = true)
    (text : List Char) : splitPlaces ('[' :: (place ++ ']' :: text)) = .ok ([place], text) := by
  rcases forall_isNoBracket_iff.1 hplace with ⟨hopening, hclose⟩
  have hopen : ∀ tail, place ++ ']' :: text ≠ '[' :: tail := by
    intro tail heq
    cases place with
    | nil => cases heq
    | cons c place =>
        obtain rfl : c = '[' := (List.cons.inj heq).1
        exact hopening List.mem_cons_self
  rw [splitPlaces]
  · rw [breakAt_singleton hclose]
  · exact hopen

/-! ## Bodies -/

theorem isEmpty_of_numeral? {token : List Char} {value : Double}
    (h : numeral? token = some value) : token.isEmpty = false := by
  cases token with
  | nil => cases h
  | cons c rest => rfl

/-- A number without blanks is a numeral as it stands. -/
theorem readNumber_token {token : List Char} (htoken : ∀ c ∈ token, isNumberChar c = true)
    {value : Double} (what : String) :
    readNumber what token = .ok value ↔ numeral? token = some value := by
  have hsolid : ∀ c ∈ token, isBlank c = false := by
    intro c hc
    have hchar := htoken c hc
    rw [isNumberChar, Bool.and_eq_true, Bool.not_eq_true'] at hchar
    exact hchar.1
  have htrim : trim token = token := trim_eq_self_iff.2
    ⟨fun c hc => hsolid c (List.mem_of_mem_head? hc),
      fun c hc => hsolid c (List.mem_of_mem_getLast? hc)⟩
  rw [readNumber, htrim]
  cases numeral? token <;> simp

section Body

variable {token gap : List Char} (htoken : ∀ c ∈ token, isNumberChar c = true)
  (hgap : ∀ c ∈ gap, isBlank c = true)
include htoken hgap

/-- The number ends before the places, and blanks between them are left out. -/
theorem span_token (tail : List Char) :
    (token ++ (gap ++ '[' :: tail)).takeWhile isNumberChar = token ∧
      trimStart ((token ++ (gap ++ '[' :: tail)).dropWhile isNumberChar) = '[' :: tail := by
  have hbracket : isNumberChar '[' = false := by decide
  have hblank : isBlank '[' = false := by decide
  have hstart : trimStart (gap ++ '[' :: tail) = '[' :: tail := by
    rw [trimStart_blank_append hgap, trimStart, List.dropWhile_cons_of_neg (by simp [hblank])]
  rw [List.takeWhile_append_of_pos htoken, List.dropWhile_append_of_pos htoken]
  cases gap with
  | nil =>
      rw [List.nil_append] at hstart ⊢
      rw [List.takeWhile_cons_of_neg (by simp [hbracket]),
        List.dropWhile_cons_of_neg (by simp [hbracket]), List.append_nil]
      exact ⟨rfl, hstart⟩
  | cons c gap =>
      have hc : isNumberChar c = false := by
        rw [isNumberChar, hgap c List.mem_cons_self]
        rfl
      rw [List.cons_append] at hstart ⊢
      rw [List.takeWhile_cons_of_neg (by simp [hc]), List.dropWhile_cons_of_neg (by simp [hc]),
        List.append_nil]
      exact ⟨rfl, hstart⟩

/--
An annotation has a whole number and at least one place, and all of its places are pairs of
numbers.
-/
theorem readAnnotation_eq_ok_iff {tail : List Char} {places : List (List Char)} {text : List Char}
    (hsplit : splitPlaces ('[' :: tail) = .ok (places, text)) (line : Nat) (keyword : String)
    (marked : Annotation) :
    readAnnotation ⟨line, keyword, token ++ (gap ++ '[' :: tail)⟩ = .ok marked ↔
      ∃ value, numeral? token = some value ∧ value.isWhole = true ∧ places ≠ [] ∧
        ∃ occurrences, places.mapM readOccurrence = .ok occurrences ∧
          marked = {
            number := .int value.toInt
            text := String.ofList (trim text)
            occurrences := occurrences
            line := some (.int line) } := by
  rcases span_token htoken hgap tail with ⟨htake, hdrop⟩
  unfold readAnnotation
  simp only [htake, hdrop, hsplit, bind_eq_ok, guard_eq_ok, pure_eq_ok, readNumber_token htoken,
    Except.ok.injEq]
  constructor
  · rintro ⟨-, value, hvalue, hwhole, _, rfl, hne, occurrences, hplaces, rfl⟩
    exact ⟨value, hvalue, by simpa using hwhole, by simpa using hne, occurrences, hplaces, rfl⟩
  · rintro ⟨value, hvalue, hwhole, hne, occurrences, hplaces, rfl⟩
    exact ⟨by simp [isEmpty_of_numeral? hvalue], value, hvalue, by simp [hwhole], _, rfl,
      by simpa using hne, occurrences, hplaces, rfl⟩

/-- No annotation has places that do not end. -/
theorem readAnnotation_ne_ok {tail : List Char} {fault : Fault}
    (hsplit : splitPlaces ('[' :: tail) = .error fault) (line : Nat) (keyword : String)
    (marked : Annotation) :
    readAnnotation ⟨line, keyword, token ++ (gap ++ '[' :: tail)⟩ ≠ .ok marked := by
  unfold readAnnotation
  simp only [(span_token htoken hgap tail).2, hsplit, Ne, bind_eq_ok, guard_eq_ok, reduceCtorEq,
    false_and, exists_const, and_false, not_false_eq_true]

/-- A number that is not whole gives a diagnostic. -/
theorem readAnnotation_of_fraction {value : Double} (hvalue : numeral? token = some value)
    (hwhole : value.isWhole = false) (tail : List Char) (line : Nat) (keyword : String) :
    readAnnotation ⟨line, keyword, token ++ (gap ++ '[' :: tail)⟩ =
      .error (.fractionalAnnotationNumber (String.ofList token)) := by
  unfold readAnnotation
  simp only [(span_token htoken hgap tail).1, isEmpty_of_numeral? hvalue,
    (readNumber_token htoken _).2 hvalue, ok_bind, hwhole]
  rfl

end Body

end Construct
end Wardley
