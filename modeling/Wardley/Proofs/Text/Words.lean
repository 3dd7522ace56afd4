import Wardley.Proofs.Text.Padding

/-!
# Words

The words of a text are its longest runs of characters that are not blank.  A blank
parts the words before it from those behind it, and everything else about words follows
from that.  Collapsing a text keeps its words and puts single spaces between them.

Main definitions:

- `IsCollapsed`: collapsing the text changes nothing, and the text has words.
- `closedGap`: what collapsing leaves of blanks within a text.

Main results:

- `words_append_blank`: a blank parts the words of a text.
- `mem_words`: a word is not empty and holds no blank.
- `words_append_of_solid`: a word ends at the next blank.
- `Padded.words_eq`: blanks around a text part no words.
- `collapse_append_blank`: a blank between two texts is collapsed to a space.
- `trim_collapse`: a collapsed text has no blank at either end.
- `IsCollapsed.append_space`: a space joins collapsed texts to a collapsed text.
- `IsCollapsed.collapse_append_blanks`: what stands behind a collapsed text is collapsed on its
  own, with a space in place of the blanks between.
-/

namespace Wardley
namespace Text

/-! ## Words of a text -/

theorem words_singleton {c : Char} (hc : isBlank c = false) : words [c] = [[c]] := by
  simp [words, hc]

/-- A blank in front adds no word. -/
theorem words_cons_blank {c : Char} (hc : isBlank c = true) (rest : List Char) :
    words (c :: rest) = words rest := by
  conv_lhs => unfold words
  exact if_pos hc

/-- A word ends before a blank. -/
theorem words_cons_solid_blank {c d : Char} (hc : isBlank c = false) (hd : isBlank d = true)
    (rest : List Char) : words (c :: d :: rest) = [c] :: words rest := by
  have hrest := words_cons_blank hd rest
  conv_lhs => unfold words
  rw [if_neg (by simp [hc]), hrest]
  cases words rest with
  | nil => rfl
  | cons word others => exact if_pos hd

/-- A word goes on with a character that is not blank. -/
theorem words_cons_solid {c d : Char} (hc : isBlank c = false) (hd : isBlank d = false)
    (rest : List Char) : ∃ word others, words (d :: rest) = word :: others ∧
      words (c :: d :: rest) = (c :: word) :: others := by
  have hne : words (d :: rest) ≠ [] := by
    unfold words
    rw [if_neg (by simp [hd])]
    split
    · split <;> simp
    · simp
  rcases List.exists_cons_of_ne_nil hne with ⟨word, others, hwords⟩
  refine ⟨word, others, hwords, ?_⟩
  conv_lhs => unfold words
  rw [if_neg (by simp [hc]), hwords]
  exact if_neg (by simp [hd])

/-- A character begins no word, a word of its own, or the word behind it. -/
theorem words_cons (c : Char) (rest : List Char) :
    (isBlank c = true ∧ words (c :: rest) = words rest) ∨
    (isBlank c = false ∧ words (c :: rest) = [c] :: words rest) ∨
    (isBlank c = false ∧ ∃ word others, words rest = word :: others ∧
      words (c :: rest) = (c :: word) :: others) := by
  by_cases hc : isBlank c = true
  · exact .inl ⟨hc, words_cons_blank hc rest⟩
  · have hc : isBlank c = false := Bool.eq_false_iff.2 hc
    cases rest with
    | nil => exact .inr (.inl ⟨hc, words_singleton hc⟩)
    | cons d tail =>
        by_cases hd : isBlank d = true
        · refine .inr (.inl ⟨hc, ?_⟩)
          rw [words_cons_solid_blank hc hd, words_cons_blank hd]
        · exact .inr (.inr ⟨hc, words_cons_solid hc (Bool.eq_false_iff.2 hd) tail⟩)

/-- A blank parts the words of a text. -/
theorem words_append_blank {c : Char} (hc : isBlank c = true) (before after : List Char) :
    words (before ++ c :: after) = words before ++ words after := by
  induction before with
  | nil => exact words_cons_blank hc after
  | cons d rest ih =>
      by_cases hd : isBlank d = true
      · rw [List.cons_append, words_cons_blank hd, ih, words_cons_blank hd]
      · have hd : isBlank d = false := Bool.eq_false_iff.2 hd
        cases rest with
        | nil =>
            rw [List.cons_append, List.nil_append, words_cons_solid_blank hd hc,
              words_singleton hd, List.cons_append, List.nil_append]
        | cons e tail =>
            by_cases he : isBlank e = true
            · rw [List.cons_append, List.cons_append, words_cons_solid_blank hd he]
              rw [List.cons_append, words_cons_blank he] at ih
              rw [words_cons_solid_blank hd he, ih, words_cons_blank he, List.cons_append]
            · have he : isBlank e = false := Bool.eq_false_iff.2 he
              rcases words_cons_solid hd he tail with ⟨word, others, hshort, hlong⟩
              rcases words_cons_solid hd he (tail ++ c :: after) with
                ⟨word', others', hshort', hlong'⟩
              rw [List.cons_append, List.cons_append, hlong', hlong, List.cons_append]
              rw [List.cons_append, hshort', hshort, List.cons_append] at ih
              cases ih
              rfl

/-- A word is not empty and holds no blank, and its characters are those of the text. -/
theorem mem_words {text word : List Char} (h : word ∈ words text) :
    word ≠ [] ∧ (∀ c ∈ word, isBlank c = false) ∧ word ⊆ text := by
  induction text generalizing word with
  | nil => cases h
  | cons d rest ih =>
      have hlater (hmem : word ∈ words rest) :
          word ≠ [] ∧ (∀ c ∈ word, isBlank c = false) ∧ word ⊆ d :: rest := by
        rcases ih hmem with ⟨hne, hsolid, hsubset⟩
        exact ⟨hne, hsolid, List.subset_cons_of_subset d hsubset⟩
      rcases words_cons d rest with ⟨-, hwords⟩ | ⟨hd, hwords⟩ | ⟨hd, first, others, hrest, hwords⟩
      · exact hlater (hwords ▸ h)
      · rcases List.mem_cons.1 (hwords ▸ h) with rfl | hmem
        · refine ⟨List.cons_ne_nil _ _, ?_, by simp⟩
          simpa using hd
        · exact hlater hmem
      · rcases List.mem_cons.1 (hwords ▸ h) with rfl | hmem
        · rcases ih (hrest ▸ List.mem_cons_self) with ⟨-, hsolid, hsubset⟩
          refine ⟨List.cons_ne_nil _ _, ?_, List.cons_subset_cons d hsubset⟩
          simpa [hd] using hsolid
        · exact hlater (hrest ▸ List.mem_cons_of_mem _ hmem)

/-- A text has words unless all of it is blank. -/
theorem words_ne_nil {text : List Char} {c : Char} (h : c ∈ text) (hc : isBlank c = false) :
    words text ≠ [] := by
  induction text with
  | nil => cases h
  | cons d rest ih =>
      rcases words_cons d rest with ⟨hd, hwords⟩ | ⟨-, hwords⟩ | ⟨-, first, others, -, hwords⟩
      · rw [hwords]
        rcases List.mem_cons.1 h with rfl | hmem
        · rw [hd] at hc
          cases hc
        · exact ih hmem
      · simp [hwords]
      · simp [hwords]

/-- A text without blanks is one word. -/
theorem words_of_solid {word : List Char} (hne : word ≠ [])
    (hsolid : ∀ c ∈ word, isBlank c = false) : words word = [word] := by
  induction word with
  | nil => contradiction
  | cons c rest ih =>
      rcases List.forall_mem_cons.1 hsolid with ⟨hc, hrest⟩
      cases rest with
      | nil => exact words_singleton hc
      | cons d tail =>
          have htail := ih (List.cons_ne_nil d tail) hrest
          rcases words_cons_solid hc (hrest d List.mem_cons_self) tail with
            ⟨first, others, hshort, hlong⟩
          rw [htail] at hshort
          cases hshort
          exact hlong

/-- A word ends where a text ends or a blank stands. -/
theorem words_append_of_solid {word rest : List Char} (hne : word ≠ [])
    (hsolid : ∀ c ∈ word, isBlank c = false) (hrest : ∀ c ∈ rest.head?, isBlank c = true) :
    words (word ++ rest) = word :: words rest := by
  cases rest with
  | nil => rw [List.append_nil, words_of_solid hne hsolid, words_nil]
  | cons c tail =>
      have hc : isBlank c = true := hrest c rfl
      rw [words_append_blank hc, words_of_solid hne hsolid, words_cons_blank hc,
        List.singleton_append]

/-- Blanks before a text begin no word. -/
theorem words_blank_append {before : List Char} (h : ∀ c ∈ before, isBlank c) (text : List Char) :
    words (before ++ text) = words text := by
  induction before with
  | nil => rfl
  | cons c rest ih =>
      rw [List.cons_append, words_cons_blank (h c List.mem_cons_self),
        ih fun d hd => h d (List.mem_cons_of_mem c hd)]

/-- Blanks hold no word. -/
theorem words_of_blank {text : List Char} (h : ∀ c ∈ text, isBlank c) : words text = [] := by
  rw [← List.append_nil text, words_blank_append h, words_nil]

/-- Blanks around a text part no words. -/
theorem Padded.words_eq {core text : List Char} (h : Padded core text) :
    words text = words core := by
  rcases h with ⟨before, after, rfl, hbefore, hafter⟩
  rw [List.append_assoc, words_blank_append hbefore]
  cases after with
  | nil => rw [List.append_nil]
  | cons c rest =>
      rcases List.forall_mem_cons.1 hafter with ⟨hc, hrest⟩
      rw [words_append_blank hc, words_of_blank hrest, List.append_nil]

/-- Trimming a text keeps its words. -/
theorem words_trim (text : List Char) : words (trim text) = words text :=
  (padded_trim text).words_eq.symm

/-! ## Collapsed texts -/

theorem intercalate_ne_nil (separator : List Char) {piece : List Char} {pieces : List (List Char)}
    (h : piece ≠ []) : List.intercalate separator (piece :: pieces) ≠ [] := by
  cases pieces with
  | nil => rwa [List.intercalate_singleton]
  | cons next rest =>
      rw [List.intercalate_cons_cons, List.append_assoc]
      exact List.append_ne_nil_of_left_ne_nil h _

theorem intercalate_append (separator : List Char) {first second : List (List Char)}
    (hfirst : first ≠ []) (hsecond : second ≠ []) :
    List.intercalate separator (first ++ second) =
      List.intercalate separator first ++ separator ++ List.intercalate separator second := by
  induction first with
  | nil => contradiction
  | cons piece rest ih =>
      cases rest with
      | nil =>
          rw [List.intercalate_singleton, List.singleton_append,
            List.intercalate_cons_of_ne_nil hsecond]
      | cons next others =>
          have hne : next :: others ≠ [] := List.cons_ne_nil _ _
          have happend : next :: others ++ second ≠ [] := List.append_ne_nil_of_left_ne_nil hne _
          rw [List.cons_append, List.intercalate_cons_of_ne_nil happend, ih hne,
            List.intercalate_cons_cons]
          simp only [List.append_assoc]

/-- A joined character comes from the separator or from a piece. -/
theorem mem_intercalate {separator : List Char} {pieces : List (List Char)} {c : Char}
    (h : c ∈ List.intercalate separator pieces) : c ∈ separator ∨ ∃ piece ∈ pieces, c ∈ piece := by
  induction pieces with
  | nil => cases h
  | cons piece rest ih =>
      cases rest with
      | nil =>
          rw [List.intercalate_singleton] at h
          exact .inr ⟨piece, List.mem_cons_self, h⟩
      | cons next others =>
          rw [List.intercalate_cons_cons, List.mem_append, List.mem_append] at h
          rcases h with (hpiece | hseparator) | hrest
          · exact .inr ⟨piece, List.mem_cons_self, hpiece⟩
          · exact .inl hseparator
          · rcases ih hrest with hseparator | ⟨other, hother, hc⟩
            · exact .inl hseparator
            · exact .inr ⟨other, List.mem_cons_of_mem _ hother, hc⟩

/-- A text with words is not collapsed to nothing. -/
theorem collapse_ne_nil {text : List Char} (h : words text ≠ []) : collapse text ≠ [] := by
  rcases List.exists_cons_of_ne_nil h with ⟨word, others, hwords⟩
  rw [collapse, hwords]
  exact intercalate_ne_nil _ (mem_words (hwords ▸ List.mem_cons_self)).1

/-- A blank between two texts is collapsed to a space. -/
theorem collapse_append_blank {c : Char} (hc : isBlank c = true) {before after : List Char}
    (hbefore : words before ≠ []) (hafter : words after ≠ []) :
    collapse (before ++ c :: after) = collapse before ++ ' ' :: collapse after := by
  rw [collapse, words_append_blank hc, intercalate_append _ hbefore hafter]
  simp [collapse]

/-- Collapsing brings no character but the space into a text. -/
theorem mem_collapse {text : List Char} {c : Char} (h : c ∈ collapse text) :
    c = ' ' ∨ c ∈ text := by
  rcases mem_intercalate h with hspace | ⟨word, hword, hc⟩
  · exact .inl (List.mem_singleton.1 hspace)
  · exact .inr ((mem_words hword).2.2 hc)

/-- Joined words have no blank at either end. -/
theorem trim_intercalate {separator : List Char} {pieces : List (List Char)}
    (hpieces : ∀ piece ∈ pieces, piece ≠ [] ∧ ∀ c ∈ piece, isBlank c = false) :
    trim (List.intercalate separator pieces) = List.intercalate separator pieces := by
  rw [trim_eq_self_iff]
  induction pieces with
  | nil => simp
  | cons piece rest ih =>
      rcases hpieces piece List.mem_cons_self with ⟨hne, hsolid⟩
      cases rest with
      | nil =>
          rw [List.intercalate_singleton]
          exact ⟨fun c hc => hsolid c (List.mem_of_mem_head? hc),
            fun c hc => hsolid c (List.mem_of_mem_getLast? hc)⟩
      | cons next others =>
          have hlater := ih fun other hother => hpieces other (List.mem_cons_of_mem _ hother)
          rw [List.intercalate_cons_cons]
          constructor
          · intro c hc
            rw [List.append_assoc, List.head?_append_of_ne_nil _ hne] at hc
            exact hsolid c (List.mem_of_mem_head? hc)
          · intro c hc
            have hnext : next ≠ [] := (hpieces next (by simp)).1
            rw [List.getLast?_append_of_ne_nil _ (intercalate_ne_nil _ hnext)] at hc
            exact hlater.2 c hc

/-- A collapsed text has no blank at either end. -/
theorem trim_collapse (text : List Char) : trim (collapse text) = collapse text :=
  trim_intercalate fun _ hword => ⟨(mem_words hword).1, (mem_words hword).2.1⟩

/-! ## Collapsed texts -/

/-- The text has words, and single spaces between them are all its blanks. -/
structure IsCollapsed (text : List Char) : Prop where
  collapse_eq : collapse text = text
  words_ne_nil : words text ≠ []

/-- A text that collapsing leaves as it stands is collapsed already. -/
theorem isCollapsed_of_ne_nil {text : List Char} (h : collapse text = text) (hne : text ≠ []) :
    IsCollapsed text := by
  refine ⟨h, fun hwords => hne ?_⟩
  rw [← h, collapse, hwords, List.intercalate_nil]

/-- A text without blanks is collapsed already. -/
theorem isCollapsed_of_solid {word : List Char} (hne : word ≠ [])
    (hsolid : ∀ c ∈ word, isBlank c = false) : IsCollapsed word := by
  refine isCollapsed_of_ne_nil ?_ hne
  rw [collapse, words_of_solid hne hsolid, List.intercalate_singleton]

/-- A space joins collapsed texts to a collapsed text. -/
theorem IsCollapsed.append_space {first second : List Char} (hfirst : IsCollapsed first)
    (hsecond : IsCollapsed second) : IsCollapsed (first ++ ' ' :: second) := by
  have hspace : isBlank ' ' = true := by decide
  constructor
  · rw [collapse_append_blank hspace hfirst.words_ne_nil hsecond.words_ne_nil,
      hfirst.collapse_eq, hsecond.collapse_eq]
  · rw [words_append_blank hspace]
    exact List.append_ne_nil_of_left_ne_nil hfirst.words_ne_nil _

/-- A collapsed text is trimmed. -/
theorem IsCollapsed.trim_eq {text : List Char} (h : IsCollapsed text) : trim text = text := by
  rw [← h.collapse_eq, trim_collapse]

/-! ## Collapsed texts that follow each other -/

/-- A word that goes on with a text goes on with the collapsed text. -/
theorem collapse_word_append {word text : List Char} (hword : ∀ c ∈ word, isBlank c = false)
    {d : Char} (hd : isBlank d = false) :
    collapse (word ++ d :: text) = word ++ collapse (d :: text) := by
  induction word with
  | nil => rfl
  | cons c rest ih =>
      rcases List.forall_mem_cons.1 hword with ⟨hc, hrest⟩
      have hnext : ∃ e tail, isBlank e = false ∧ rest ++ d :: text = e :: tail := by
        cases rest with
        | nil => exact ⟨d, text, hd, rfl⟩
        | cons e tail => exact ⟨e, tail ++ d :: text, hrest e List.mem_cons_self, rfl⟩
      rw [List.cons_append, List.cons_append, ← ih hrest]
      rcases hnext with ⟨e, tail, he, hnext⟩
      rcases words_cons_solid hc he tail with ⟨first, others, hshort, hlong⟩
      rw [hnext, collapse, collapse, hshort, hlong]
      cases others <;> rfl

/-- Behind a collapsed text, a text that begins with a word is collapsed on its own. -/
theorem IsCollapsed.collapse_append {first text : List Char} (hfirst : IsCollapsed first)
    {d : Char} (hd : isBlank d = false) :
    collapse (first ++ d :: text) = first ++ collapse (d :: text) := by
  have hjoin : ∀ pieces : List (List Char), pieces ≠ [] →
      (∀ piece ∈ pieces, piece ≠ [] ∧ ∀ c ∈ piece, isBlank c = false) →
      collapse (List.intercalate [' '] pieces ++ d :: text) =
        List.intercalate [' '] pieces ++ collapse (d :: text) := by
    intro pieces hpieces hwords
    induction pieces with
    | nil => contradiction
    | cons word rest ih =>
        rcases List.forall_mem_cons.1 hwords with ⟨⟨hword, hsolid⟩, hrest⟩
        cases rest with
        | nil =>
            rw [List.intercalate_singleton]
            exact collapse_word_append hsolid hd
        | cons next others =>
            have hone := isCollapsed_of_solid hword hsolid
            have hbehind : words (List.intercalate [' '] (next :: others) ++ d :: text) ≠ [] :=
              Text.words_ne_nil (List.mem_append_right _ List.mem_cons_self) hd
            rw [List.intercalate_cons_cons, List.append_assoc, List.append_assoc,
              List.singleton_append, collapse_append_blank (by decide) hone.words_ne_nil hbehind,
              hone.collapse_eq, ih (List.cons_ne_nil next others) hrest, List.append_assoc,
              List.append_assoc, List.singleton_append]
  rw [← hfirst.collapse_eq]
  exact hjoin _ hfirst.words_ne_nil fun _ hword => ⟨(mem_words hword).1, (mem_words hword).2.1⟩

/-- Blanks within a text collapse to a space, where there are any. -/
def closedGap (blanks : List Char) : List Char := if blanks = [] then [] else [' ']

/-- A closed gap is blank. -/
theorem isBlank_of_mem_closedGap {blanks : List Char} :
    ∀ c ∈ closedGap blanks, isBlank c = true := by
  intro c hc
  rw [closedGap] at hc
  split at hc
  · cases hc
  · rw [List.mem_singleton.1 hc]
    decide

/-- Blanks between a collapsed text and one that begins with a word. -/
theorem IsCollapsed.collapse_append_blanks {first blanks text : List Char}
    (hfirst : IsCollapsed first) (hblanks : ∀ c ∈ blanks, isBlank c = true) {d : Char}
    (hd : isBlank d = false) :
    collapse (first ++ (blanks ++ d :: text)) =
      first ++ (closedGap blanks ++ collapse (d :: text)) := by
  cases blanks with
  | nil => exact hfirst.collapse_append hd
  | cons c rest =>
      rcases List.forall_mem_cons.1 hblanks with ⟨hc, hrest⟩
      have hbehind : words (rest ++ d :: text) = words (d :: text) := words_blank_append hrest _
      have hne : words (d :: text) ≠ [] := Text.words_ne_nil List.mem_cons_self hd
      rw [List.cons_append, collapse_append_blank hc hfirst.words_ne_nil (by rwa [hbehind]),
        hfirst.collapse_eq, collapse, hbehind]
      rfl

end Text
end Wardley
