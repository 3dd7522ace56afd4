import Mathlib.Data.Bool.AllAny
import Wardley.Proofs.Notation.NamedPlace
import Wardley.Proofs.Text.Lines

/-!
# Decorator groups of a body

A body is cut into pieces from left to right, so that the pieces of texts that follow each
other are those of the parts, as long as no parenthesis is open at the seam.  A group that
is made of the words of marks has these marks, and the marks of all groups together set
the flags of the decorators among them.

Main definitions:

- `OpensFirst`: texts whose first parenthesis opens a group.
- `Mark.word`, `groupText`: the word of a mark and the group of several ones.
- `markedDecorators`: the decorators among marks.

Main results:

- `pieces_append`, `pieces_groupText`, `pieces_append_of_not_mem`, `pieces_append_group`: pieces
  of an append.
- `marks_groupText`: a written group has its marks.
- `foldl_apply`: marks set the flags of their decorators.
- `takeDecorators_padded`: blanks around a body do not matter to its groups.
-/

namespace Wardley

namespace Decorators

/-- The decorators for which a test holds. -/
def ofHas (test : Decorator → Bool) : Decorators :=
  ⟨test .ecosystem, test .market, test .buy, test .build, test .outsource⟩

/-- The decorators of a test are those that pass it. -/
@[simp] theorem has_ofHas (test : Decorator → Bool) (decorator : Decorator) :
    (ofHas test).has decorator = test decorator := by
  cases decorator <;> rfl

end Decorators

namespace Notation

open Text

/-! ## Marks -/

/-- The word of a mark. -/
def Mark.word : Mark → List Char
  | .decorator d => d.word.toList
  | .inertia => "inertia".toList

/-- The word of a mark is read as the mark. -/
@[simp] theorem Mark.ofWord?_word (mark : Mark) : Mark.ofWord? mark.word = some mark := by
  cases mark with
  | decorator d => cases d <;> decide
  | inertia => rfl

/-- The words of marks are words, without commas and parentheses. -/
theorem Mark.isSolid_word (mark : Mark) :
    mark.word ≠ [] ∧ ∀ c ∈ mark.word, isBlank c = false ∧ c ∉ [',', '(', ')'] := by
  refine ⟨?_, List.all_iff_forall_prop.1 ?_⟩
  · cases mark with
    | decorator d => cases d <;> decide
    | inertia => decide
  · cases mark with
    | decorator d => cases d <;> decide
    | inertia => decide

/-- The decorators among marks; none are written if all marks are inertia. -/
def markedDecorators (marks : List Mark) : Option Decorators :=
  if marks.all (· == .inertia) then none
  else some (.ofHas fun decorator => marks.contains (.decorator decorator))

/-- Only marks of inertia leave decorators unset. -/
theorem isNone_foldl_apply (flags : Option Decorators) (marks : List Mark) :
    (marks.foldl Mark.apply flags).isNone = (flags.isNone && marks.all (· == .inertia)) := by
  induction marks generalizing flags with
  | nil => simp
  | cons mark rest ih =>
      rw [List.foldl_cons, ih]
      cases mark <;> simp [Mark.apply]

/-- Marks set the decorators that they name and keep the others. -/
theorem has_foldl_apply (flags : Option Decorators) (marks : List Mark) (decorator : Decorator) :
    ((marks.foldl Mark.apply flags).getD .unset).has decorator =
      ((flags.getD .unset).has decorator || marks.contains (.decorator decorator)) := by
  induction marks generalizing flags with
  | nil => simp
  | cons mark rest ih =>
      rw [List.foldl_cons, ih]
      cases mark with
      | inertia => simp [Mark.apply]
      | decorator d =>
          rw [Bool.eq_iff_iff]
          simp only [Mark.apply, Option.getD_some, Decorators.has_mark, Bool.or_eq_true,
            beq_iff_eq, List.contains_cons, Mark.decorator.injEq]
          tauto

/-- Marks set the flags of the decorators among them. -/
theorem foldl_apply (marks : List Mark) : marks.foldl Mark.apply none = markedDecorators marks := by
  have hnone := isNone_foldl_apply none marks
  have hhas := has_foldl_apply none marks
  rw [markedDecorators]
  cases hfold : marks.foldl Mark.apply none with
  | none =>
      rw [hfold] at hnone
      rw [if_pos (by simpa using hnone)]
  | some flags =>
      rw [hfold] at hnone hhas
      rw [if_neg (by simpa using hnone)]
      congr 1
      apply Decorators.ext_has
      intro decorator
      simpa using hhas decorator

/-! ## Pieces of texts that follow each other -/

/-- In front of parentheses, the pieces of a text are its characters. -/
theorem pieces_append {front : List Char} (h : '(' ∉ front) (text : List Char) :
    pieces (front ++ text) = front.map Piece.char ++ pieces text := by
  induction front with
  | nil => rfl
  | cons c rest ih =>
      rw [List.mem_cons, not_or] at h
      have hnone : takeParentheses? (c :: (rest ++ text)) = none := by
        unfold takeParentheses?
        split
        · rename_i heq
          cases heq
          exact absurd rfl h.1
        · rfl
      rw [List.cons_append, pieces, List.map_cons, List.cons_append, ← ih h.2]
      split
      · rename_i hgroup
        rw [hnone] at hgroup
        cases hgroup
      · rfl

/-- A text starts with a group when it starts with parentheses around none. -/
theorem takeParentheses?_eq_some_iff {text content after : List Char} :
    takeParentheses? text = some (content, after) ↔
      text = '(' :: (content ++ ')' :: after) ∧ ∀ c ∈ content, isNoParenthesis c = true := by
  constructor
  · intro h
    unfold takeParentheses? at h
    split at h
    · rename_i rest
      split at h
      · rename_i tail hdrop
        cases h
        rw [← hdrop, List.takeWhile_append_dropWhile]
        exact ⟨rfl, fun c hc => List.mem_takeWhile_imp hc⟩
      · cases h
    · cases h
  · rintro ⟨rfl, hcontent⟩
    have hclose : isNoParenthesis ')' = false := rfl
    rw [takeParentheses?, List.dropWhile_append_of_pos hcontent,
      List.takeWhile_append_of_pos hcontent]
    simp [hclose]

/-- A group is taken up to its closing parenthesis. -/
theorem takeParentheses?_group {content : List Char}
    (h : ∀ c ∈ content, isNoParenthesis c = true) (text : List Char) :
    takeParentheses? ('(' :: (content ++ ')' :: text)) = some (content, text) :=
  takeParentheses?_eq_some_iff.2 ⟨rfl, h⟩

/-- A group without inner parentheses is one piece. -/
theorem pieces_group {content : List Char} (h : ∀ c ∈ content, isNoParenthesis c = true)
    (text : List Char) :
    pieces ('(' :: (content ++ ')' :: text)) = .group content :: pieces text := by
  rw [pieces]
  split
  · rename_i hgroup
    rw [takeParentheses?_group h] at hgroup
    cases hgroup
    rfl
  · rename_i hgroup
    rw [takeParentheses?_group h] at hgroup
    cases hgroup

/-- The first parenthesis of a text, if it has one, opens a group. -/
def OpensFirst (text : List Char) : Prop := ∀ c ∈ (text.dropWhile isNoParenthesis).head?, c = '('

/-- A text without parentheses opens first. -/
theorem opensFirst_of_isNoParenthesis {text : List Char}
    (h : ∀ c ∈ text, isNoParenthesis c = true) : OpensFirst text := by
  rw [OpensFirst, List.dropWhile_eq_nil_iff.2 h]
  simp

/-- A text that starts with an opening parenthesis opens first. -/
theorem opensFirst_cons (text : List Char) : OpensFirst ('(' :: text) := by
  have hopen : ¬ isNoParenthesis '(' = true := by decide
  rw [OpensFirst, List.dropWhile_cons_of_neg hopen]
  simp

section Seam

variable {behind : List Char} (hbehind : OpensFirst behind)
include hbehind

/-- A text whose first parenthesis opens a group ends no group. -/
theorem OpensFirst.ne_append {content after : List Char}
    (hcontent : ∀ c ∈ content, isNoParenthesis c = true) : behind ≠ content ++ ')' :: after := by
  rintro rfl
  have hclose : ¬ isNoParenthesis ')' = true := by decide
  rw [OpensFirst, List.dropWhile_append_of_pos hcontent, List.dropWhile_cons_of_neg hclose]
    at hbehind
  exact absurd (hbehind ')' rfl) (by decide)

/-- It closes no group in front of it. -/
theorem OpensFirst.takeParentheses?_append {text : List Char} (hne : text ≠ []) :
    takeParentheses? (text ++ behind) =
      (takeParentheses? text).map fun found => (found.1, found.2 ++ behind) := by
  cases htext : takeParentheses? text with
  | some found =>
      rcases found with ⟨content, after⟩
      rcases takeParentheses?_eq_some_iff.1 htext with ⟨rfl, hcontent⟩
      exact takeParentheses?_eq_some_iff.2 ⟨by simp, hcontent⟩
  | none =>
      rw [Option.map_none, Option.eq_none_iff_forall_ne_some]
      rintro ⟨content, after⟩ hlonger
      rcases takeParentheses?_eq_some_iff.1 hlonger with ⟨heq, hcontent⟩
      rcases List.exists_cons_of_ne_nil hne with ⟨c, rest, rfl⟩
      rw [List.cons_append, List.cons.injEq] at heq
      obtain ⟨rfl, hrest⟩ := heq
      rcases List.append_eq_append_iff.1 hrest with ⟨within, rfl, hend⟩ | ⟨within, rfl, hend⟩
      · -- the group would end in the text behind
        exact hbehind.ne_append (fun c hc => hcontent c (List.mem_append_right _ hc)) hend
      · cases within with
        | nil =>
            have hnone : ∀ c ∈ ([] : List Char), isNoParenthesis c = true := by simp
            exact hbehind.ne_append hnone hend.symm
        | cons d within =>
            rw [List.cons_append, List.cons.injEq] at hend
            obtain ⟨rfl, -⟩ := hend
            rw [takeParentheses?_group hcontent] at htext
            cases htext

/-- The pieces of two texts are those of the parts if the second one closes no group. -/
theorem OpensFirst.pieces_append (text : List Char) :
    pieces (text ++ behind) = pieces text ++ pieces behind := by
  cases text with
  | nil => simp [pieces]
  | cons c rest =>
      have htext := hbehind.takeParentheses?_append (List.cons_ne_nil c rest)
      rw [List.cons_append] at htext ⊢
      rw [pieces, pieces]
      split <;> rename_i hlonger <;> rw [hlonger] at htext
      · rename_i content after
        split
        · rename_i content' after' hshort
          rw [hshort] at htext
          cases htext
          have hlength := takeParentheses?_length hshort
          rw [List.cons_append, ← OpensFirst.pieces_append after']
        · rename_i hshort
          rw [hshort] at htext
          cases htext
      · split
        · rename_i hshort
          rw [hshort] at htext
          cases htext
        · rw [List.cons_append, ← OpensFirst.pieces_append rest]
termination_by text.length
decreasing_by
  · exact hlength
  · exact Nat.lt_succ_self _

end Seam

section Behind

variable {behind : List Char} (h : ∀ c ∈ behind, isNoParenthesis c = true)
include h

/-- What stands behind opens no further group. -/
theorem not_mem_of_isNoParenthesis : '(' ∉ behind := fun hmem =>
  absurd (h _ hmem) (by decide)

/-- Behind parentheses, the pieces of a text are its characters. -/
theorem pieces_append_of_not_mem (text : List Char) :
    pieces (text ++ behind) = pieces text ++ behind.map Piece.char := by
  rw [(opensFirst_of_isNoParenthesis h).pieces_append,
    pieces_of_not_mem (not_mem_of_isNoParenthesis h)]

end Behind

/-- A group between two texts is a piece between theirs. -/
theorem pieces_append_group (before : List Char) {content : List Char}
    (h : ∀ c ∈ content, isNoParenthesis c = true) (after : List Char) :
    pieces (before ++ '(' :: (content ++ ')' :: after)) =
      pieces before ++ .group content :: pieces after := by
  rw [(opensFirst_cons _).pieces_append, pieces_group h]

/-! ## Groups of marks -/

/-- Characters outside groups mark nothing. -/
theorem marks_map_char (text : List Char) : (text.map Piece.char).flatMap Piece.marks = [] := by
  simp [Piece.marks]

/-- Characters outside groups remain. -/
theorem remains_map_char (text : List Char) :
    (text.map Piece.char).flatMap Piece.remains = text := by
  simp [List.flatMap_map, Piece.remains, Piece.marks]

/-- The words of marks, separated by commas. -/
def groupContent (marks : List Mark) : List Char :=
  List.intercalate [',', ' '] (marks.map Mark.word)

/-- A group of marks as it is written. -/
def groupText (marks : List Mark) : List Char := '(' :: (groupContent marks ++ [')'])

/-- A space behind each separating comma belongs to the next piece. -/
theorem intercalate_comma_space (piece : List Char) (pieces : List (List Char)) :
    List.intercalate [',', ' '] (piece :: pieces) =
      List.intercalate [','] (piece :: pieces.map fun next => ' ' :: next) := by
  induction pieces generalizing piece with
  | nil => rfl
  | cons next rest ih =>
      rw [List.intercalate_cons_cons, ih, List.map_cons,
        List.intercalate_cons_cons, List.append_assoc, List.append_assoc]
      cases rest <;> simp

/-- Words without commas are read back from a group. -/
theorem groupWords_intercalate {pieces : List (List Char)}
    (h : ∀ piece ∈ pieces, piece ≠ [] ∧ trim piece = piece ∧ ',' ∉ piece) :
    groupWords (List.intercalate [',', ' '] pieces) = pieces := by
  cases pieces with
  | nil => rfl
  | cons piece rest =>
      have hspace (next : List Char) : trim (' ' :: next) = trim next := by
        rw [trim, trimStart, List.dropWhile_cons_of_pos (by decide)]
        rfl
      have hsplit : List.splitOn ',' (List.intercalate [',', ' '] (piece :: rest)) =
          piece :: rest.map fun next => ' ' :: next := by
        rw [intercalate_comma_space]
        refine List.splitOn_intercalate _ ?_ (List.cons_ne_nil _ _)
        intro other hother
        rcases List.mem_cons.1 hother with rfl | hmem
        · exact (h other List.mem_cons_self).2.2
        · rcases List.mem_map.1 hmem with ⟨next, hnext, rfl⟩
          simpa using (h next (List.mem_cons_of_mem _ hnext)).2.2
      have htrim : rest.map (fun next => trim (' ' :: next)) = rest := by
        rw [List.map_congr_left fun next hnext => (hspace next).trans
          (h next (List.mem_cons_of_mem _ hnext)).2.1, List.map_id']
      rw [groupWords, hsplit, List.map_cons, List.map_map, Function.comp_def, htrim,
        (h piece List.mem_cons_self).2.1, List.filter_eq_self]
      intro other hother
      simpa using (h other hother).1

/-- The word of a mark is trimmed. -/
theorem trim_word (mark : Mark) : trim mark.word = mark.word := by
  rw [trim_eq_self_iff]
  exact ⟨fun c hc => (mark.isSolid_word.2 c (List.mem_of_mem_head? hc)).1,
    fun c hc => (mark.isSolid_word.2 c (List.mem_of_mem_getLast? hc)).1⟩

/-- The words of marks are read as the marks. -/
theorem mapM_ofWord?_word (marks : List Mark) :
    (marks.map Mark.word).mapM Mark.ofWord? = some marks := by
  induction marks with
  | nil => rfl
  | cons mark rest ih =>
      rw [List.map_cons, List.mapM_cons, Mark.ofWord?_word, ih]
      rfl

/-- A written group has its marks. -/
theorem marks_groupContent (marks : List Mark) :
    (Piece.group (groupContent marks)).marks = marks := by
  have hwords : groupWords (groupContent marks) = marks.map Mark.word := by
    apply groupWords_intercalate
    intro piece hpiece
    rcases List.mem_map.1 hpiece with ⟨mark, -, rfl⟩
    have hcomma : ',' ∉ mark.word := fun hmem =>
      absurd List.mem_cons_self (mark.isSolid_word.2 _ hmem).2
    exact ⟨mark.isSolid_word.1, trim_word mark, hcomma⟩
  rw [Piece.marks, hwords, mapM_ofWord?_word]
  rfl

/-- Nothing but a blank remains of a written group. -/
theorem remains_groupContent {marks : List Mark} (hne : marks ≠ []) :
    (Piece.group (groupContent marks)).remains = [' '] := by
  rw [Piece.remains, marks_groupContent, List.isEmpty_eq_false_iff.2 hne]
  rfl

/-- The words of a group hold no parenthesis. -/
theorem isNoParenthesis_of_mem_groupContent {marks : List Mark} {c : Char}
    (hc : c ∈ groupContent marks) : isNoParenthesis c = true := by
  rcases mem_intercalate hc with hseparator | ⟨word, hword, hmem⟩
  · have hseparators : ∀ c ∈ [',', ' '], isNoParenthesis c = true :=
      List.all_eq_true.1 (by decide)
    exact hseparators c hseparator
  · rcases List.mem_map.1 hword with ⟨mark, -, rfl⟩
    have hnot := (mark.isSolid_word.2 c hmem).2
    simp only [List.mem_cons, List.not_mem_nil, or_false, not_or] at hnot
    simp [isNoParenthesis, hnot.2.1, hnot.2.2]

/-- A written group is one piece. -/
theorem pieces_groupText (marks : List Mark) (text : List Char) :
    pieces (groupText marks ++ text) = .group (groupContent marks) :: pieces text := by
  have hcontent : ∀ c ∈ groupContent marks, isNoParenthesis c = true := fun c hc =>
    isNoParenthesis_of_mem_groupContent hc
  have hgroup := pieces_group hcontent text
  rw [groupText, List.cons_append, List.append_assoc, List.singleton_append, hgroup]

/-! ## Blanks around a body -/

/-- A blank is no parenthesis. -/
theorem isNoParenthesis_of_isBlank {c : Char} (hc : isBlank c = true) :
    isNoParenthesis c = true := by
  have hopen : isBlank '(' = false := by decide
  have hclose : isBlank ')' = false := by decide
  rw [isNoParenthesis, Bool.and_eq_true, bne_iff_ne, bne_iff_ne]
  exact ⟨ne_of_apply_ne isBlank (by simp [hc, hopen]),
    ne_of_apply_ne isBlank (by simp [hc, hclose])⟩

/-- Blanks around a body do not matter to its groups. -/
theorem takeDecorators_padded {core text : List Char} (h : Padded core text) :
    takeDecorators text = takeDecorators core := by
  rcases h with ⟨before, after, rfl, hbefore, hafter⟩
  have hparenthesis {blanks : List Char} (hblanks : ∀ c ∈ blanks, isBlank c = true) :
      ∀ c ∈ blanks, isNoParenthesis c = true := fun c hc =>
    isNoParenthesis_of_isBlank (hblanks c hc)
  have hpieces : pieces (before ++ core ++ after) =
      before.map Piece.char ++ (pieces core ++ after.map Piece.char) := by
    rw [List.append_assoc, pieces_append, pieces_append_of_not_mem]
    · exact hparenthesis hafter
    · exact not_mem_of_isNoParenthesis (hparenthesis hbefore)
  have hmarks : (pieces (before ++ core ++ after)).flatMap Piece.marks =
      (pieces core).flatMap Piece.marks := by
    rw [hpieces, List.flatMap_append, List.flatMap_append, marks_map_char, marks_map_char]
    simp
  have hremains : Padded ((pieces core).flatMap Piece.remains)
      ((pieces (before ++ core ++ after)).flatMap Piece.remains) := by
    refine ⟨before, after, ?_, hbefore, hafter⟩
    rw [hpieces, List.flatMap_append, List.flatMap_append, remains_map_char, remains_map_char,
      List.append_assoc]
  rw [takeDecorators, takeDecorators]
  simp only [hmarks, collapse, hremains.words_eq]

end Notation
end Wardley
