import Wardley.Proofs.Construct.Padding
import Wardley.Proofs.Text.Words

/-!
# Children on a line

A line of a block is cut at those of its words that are `component`.  Read word by word,
each such word begins the body of a child, and every other word goes to the body in which
it stands, or to nobody before the first child.  So there are as many children on a line
as words `component`, in the order of these words.

Main definitions:

- `childWord`: the word that begins a child.
- `CutAtChildren`: how the words of a text are shared out among its pieces.

Main results:

- `exists_cutAtChildren`: the pieces of a text share out its words.
- `words_eq_splitChildren`, `length_splitChildren`: the bodies of the children on a line.
-/

namespace Wardley
namespace Construct

open Notation Text

/-- The word that begins a child. -/
def childWord : List Char := "component".toList

theorem childWord_solid : ∀ c ∈ childWord, isBlank c = false := by
  intro c hc
  have hkeyword := (isKeyword_reservedKeywords "component" (by decide)).2
  simpa [isSolid] using List.all_eq_true.1 hkeyword c hc

/-! ## Words -/

/-- The word at the head of a text ends where the text ends or a blank stands. -/
theorem takeWhile_isSolid_append {word rest : List Char}
    (hsolid : ∀ c ∈ word, isBlank c = false) (hrest : ∀ c ∈ rest.head?, isBlank c = true) :
    (word ++ rest).takeWhile isSolid = word := by
  have hall : ∀ c ∈ word, isSolid c = true := fun c hc => by simp [isSolid, hsolid c hc]
  cases rest with
  | nil => rw [List.append_nil, List.takeWhile_eq_self_iff.2 hall]
  | cons c tail =>
      have hc : isBlank c = true := hrest c rfl
      rw [List.takeWhile_append_of_pos hall, List.takeWhile_cons_of_neg (by simp [isSolid, hc]),
        List.append_nil]

/-- At a word a child begins exactly if the word is the keyword. -/
theorem beginsChild_append_iff {word rest : List Char} (hsolid : ∀ c ∈ word, isBlank c = false)
    (hrest : ∀ c ∈ rest.head?, isBlank c = true) :
    beginsChild true (word ++ rest) = true ↔ word = childWord := by
  rw [beginsChild, Bool.true_and, afterChildKeyword?]
  constructor
  · intro hbegins
    split at hbegins
    · rename_i hafter
      rw [← takeWhile_isSolid_append hsolid hrest, afterPrefix_eq_some.1 hafter]
      exact takeWhile_isSolid_append childWord_solid (by simp)
    · rename_i c tail hafter
      by_cases hc : isBlank c = true
      · rw [← takeWhile_isSolid_append hsolid hrest, afterPrefix_eq_some.1 hafter]
        exact takeWhile_isSolid_append childWord_solid (by simpa using hc)
      · rw [if_neg hc] at hbegins
        cases hbegins
    · cases hbegins
  · rintro rfl
    have hafter : afterPrefix "component".toList (childWord ++ rest) = some rest :=
      afterPrefix_eq_some.2 rfl
    rw [hafter]
    cases rest with
    | nil => rfl
    | cons c tail => exact congrArg Option.isSome (if_pos (hrest c rfl))

/-- Within a word no child begins. -/
theorem splitAtChildren_false_append {word rest first : List Char} {others : List (List Char)}
    (hsolid : ∀ c ∈ word, isBlank c = false)
    (h : splitAtChildren false rest = first :: others) :
    splitAtChildren false (word ++ rest) = (word ++ first) :: others := by
  induction word with
  | nil => exact h
  | cons c tail ih =>
      rcases List.forall_mem_cons.1 hsolid with ⟨hc, htail⟩
      rw [List.cons_append, splitAtChildren_of_not_begins rfl, hc, ih htail]
      rfl

/-- Where no word begins, it does not matter whether one may begin. -/
theorem splitAtChildren_false_eq {rest : List Char} (hrest : ∀ c ∈ rest.head?, isBlank c = true) :
    splitAtChildren false rest = splitAtChildren true rest := by
  cases rest with
  | nil => rw [splitAtChildren, splitAtChildren]
  | cons c tail =>
      have hc : isBlank c = true := hrest c rfl
      rw [splitAtChildren_of_not_begins (beginsChild_blank hc tail),
        splitAtChildren_of_not_begins (beginsChild_blank hc tail)]

section Word

variable {word rest : List Char} (hrest : ∀ c ∈ rest.head?, isBlank c = true)
include hrest

/-- The keyword begins another piece. -/
theorem splitAtChildren_childWord :
    splitAtChildren true (childWord ++ rest) = [] :: splitAtChildren true rest := by
  have hbegins := (beginsChild_append_iff childWord_solid hrest).2 rfl
  rw [← splitAtChildren_false_eq hrest]
  exact splitAtChildren_of_begins hbegins

/-- Any other word goes to the piece in which it stands. -/
theorem splitAtChildren_word {first : List Char} {others : List (List Char)}
    (hne : word ≠ []) (hsolid : ∀ c ∈ word, isBlank c = false) (hword : word ≠ childWord)
    (h : splitAtChildren true rest = first :: others) :
    splitAtChildren true (word ++ rest) = (word ++ first) :: others := by
  have hbegins : beginsChild true (word ++ rest) = false := by
    rw [Bool.eq_false_iff]
    exact mt (beginsChild_append_iff hsolid hrest).1 hword
  cases word with
  | nil => contradiction
  | cons c tail =>
      rcases List.forall_mem_cons.1 hsolid with ⟨hc, htail⟩
      rw [List.cons_append] at hbegins ⊢
      rw [← splitAtChildren_false_eq hrest] at h
      rw [splitAtChildren_of_not_begins hbegins, hc, splitAtChildren_false_append htail h]
      rfl

end Word

/-! ## Pieces -/

/-- The words of a text go to its pieces, of which all but the first follow the keyword. -/
structure CutAtChildren (text first : List Char) (others : List (List Char)) : Prop where
  words_eq : words text = words first ++ others.flatMap fun piece => childWord :: words piece
  first_free : childWord ∉ words first
  others_free : ∀ piece ∈ others, childWord ∉ words piece
  /-- Where the text begins no word, its first piece does not either. -/
  head : (∀ c ∈ text.head?, isBlank c = true) → ∀ c ∈ first.head?, isBlank c = true

namespace CutAtChildren

variable {rest first : List Char} {others : List (List Char)} (h : CutAtChildren rest first others)
include h

/-- A blank goes to the first piece. -/
theorem blank {c : Char} (hc : isBlank c = true) :
    CutAtChildren (c :: rest) (c :: first) others where
  words_eq := by rw [words_cons_blank hc, words_cons_blank hc, h.words_eq]
  first_free := by
    rw [words_cons_blank hc]
    exact h.first_free
  others_free := h.others_free
  head := fun _ d hd => by
    cases hd
    exact hc

variable (hrest : ∀ c ∈ rest.head?, isBlank c = true)
include hrest

/-- The keyword begins a piece of its own. -/
theorem keyword : CutAtChildren (childWord ++ rest) [] (first :: others) where
  words_eq := by
    rw [words_append_of_solid (by decide) childWord_solid hrest, h.words_eq]
    rfl
  first_free := List.not_mem_nil
  others_free := List.forall_mem_cons.2 ⟨h.first_free, h.others_free⟩
  head := fun _ d hd => by cases hd

/-- Any other word goes to the first piece. -/
theorem word {word : List Char} (hne : word ≠ []) (hsolid : ∀ c ∈ word, isBlank c = false)
    (hword : word ≠ childWord) : CutAtChildren (word ++ rest) (word ++ first) others where
  words_eq := by
    rw [words_append_of_solid hne hsolid hrest, words_append_of_solid hne hsolid (h.head hrest),
      h.words_eq, List.cons_append]
  first_free := by
    rw [words_append_of_solid hne hsolid (h.head hrest), List.mem_cons, not_or]
    exact ⟨Ne.symm hword, h.first_free⟩
  others_free := h.others_free
  head := by
    rw [List.head?_append_of_ne_nil _ hne, List.head?_append_of_ne_nil _ hne]
    exact id

end CutAtChildren

/-- The pieces of a text share out its words. -/
theorem exists_cutAtChildren (text : List Char) :
    ∃ first others, splitAtChildren true text = first :: others ∧
      CutAtChildren text first others := by
  -- word by word: after a blank, the text begins with a blank or with a whole word
  match text with
  | [] =>
      refine ⟨[], [], by rw [splitAtChildren], ?_⟩
      constructor <;> simp
  | c :: tail =>
      by_cases hc : isBlank c = true
      · rcases exists_cutAtChildren tail with ⟨first, others, hsplit, hcut⟩
        refine ⟨c :: first, others, ?_, hcut.blank hc⟩
        rw [splitAtChildren_of_not_begins (beginsChild_blank hc tail), hc, hsplit]
      · rcases exists_word (Bool.eq_false_iff.2 hc) tail with
          ⟨word, rest, htext, hne, hsolid, hrest⟩
        have hshorter : rest.length < (c :: tail).length := by
          have := List.length_pos_iff.2 hne
          rw [htext, List.length_append]
          omega
        rcases exists_cutAtChildren rest with ⟨first, others, hsplit, hcut⟩
        rw [htext]
        by_cases hword : word = childWord
        · rw [hword]
          exact ⟨[], first :: others, by rw [splitAtChildren_childWord hrest, hsplit],
            hcut.keyword hrest⟩
        · exact ⟨word ++ first, others, splitAtChildren_word hrest hne hsolid hword hsplit,
            hcut.word hrest hne hsolid hword⟩
termination_by text.length
decreasing_by
  · exact Nat.lt_succ_self _
  · exact hshorter

/-- Each word `component` of a text begins the body of a child, up to the next such word. -/
theorem words_eq_splitChildren (text : List Char) :
    ∃ leading, childWord ∉ leading ∧
      words text = leading ++ (splitChildren text).flatMap fun body => childWord :: words body := by
  rcases exists_cutAtChildren text with ⟨first, others, hsplit, hcut⟩
  refine ⟨words first, hcut.first_free, ?_⟩
  rw [splitChildren, hsplit, List.tail_cons, List.flatMap_map]
  simp only [words_trim]
  exact hcut.words_eq

/-- No body of a child on a line holds the word that begins a child. -/
theorem childWord_not_mem_words {text body : List Char} (h : body ∈ splitChildren text) :
    childWord ∉ words body := by
  rcases exists_cutAtChildren text with ⟨first, others, hsplit, hcut⟩
  rw [splitChildren, hsplit, List.tail_cons] at h
  rcases List.mem_map.1 h with ⟨piece, hpiece, rfl⟩
  rw [words_trim]
  exact hcut.others_free piece hpiece

/-- There are as many children on a line as words `component`. -/
theorem length_splitChildren (text : List Char) :
    (splitChildren text).length = (words text).count childWord := by
  rcases words_eq_splitChildren text with ⟨leading, hleading, hwords⟩
  have hone : ∀ body ∈ splitChildren text, (childWord :: words body).count childWord = 1 := by
    intro body hbody
    rw [List.count_cons_self, List.count_eq_zero.2 (childWord_not_mem_words hbody)]
  rw [hwords, List.count_append, List.count_eq_zero.2 hleading, Nat.zero_add, List.count_flatMap]
  calc (splitChildren text).length
      = ((splitChildren text).map fun _ => 1).sum := by simp
    _ = _ := congrArg List.sum (List.map_congr_left fun body hbody => (hone body hbody).symm)

end Construct
end Wardley
