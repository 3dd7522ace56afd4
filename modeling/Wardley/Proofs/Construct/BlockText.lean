import Mathlib.Data.List.Flatten
import Wardley.Proofs.Construct.Children
import Wardley.Proofs.Notation.BlockOrder
import Wardley.Proofs.Notation.Insertion

/-!
# The text of a block

The text of a block runs from its opening brace to the first closing brace behind it or,
without one, to the end of the lines.  The lines that a block owns hold this text: the
words within them are its words, and so each of its words `component` declares a child.

Main definitions:

- `Block.text`: what stands between the braces of a block.
- `Block.Opens`, `Block.OpensAmong`: the line on which a block opens, among the others.

Main results:

- `opensAmong_of_mem_blocks`: where the blocks of lines open and close.
- `words_text`: the words of a block, line by line.
- `length_childDeclarations`, `childDeclarations_sublist`: the children that a block declares.
-/

namespace Wardley
namespace Notation

open Text

/-- What stands between the opening brace of a block and the first closing brace behind it. -/
def Block.text (block : Block) (lines : List (List Char)) : List Char :=
  (afterBrace (List.intercalate ['\n'] (lines.drop block.opening))).takeWhile (· != '}')

/-! ## Where blocks open and close -/

/-- A block opens on a line with a brace, behind some of the lines, and closes at the next
closing brace.  The first of the lines has the given position. -/
structure Block.Opens (position : Nat) (lines before : List (List Char)) (first : List Char)
    (rest : List (List Char)) (block : Block) : Prop where
  lines_eq : lines = before ++ first :: rest
  opening_eq : block.opening = position + before.length
  brace : '{' ∈ first
  closing_eq : block.closing = block.opening + closingDistance first rest

/-- A block that opens behind some lines opens among all of them. -/
theorem Block.Opens.of_drop {position : Nat} (count : Nat)
    {lines before rest : List (List Char)} {first : List Char} {block : Block}
    (h : block.Opens (position + count) (lines.drop count) before first rest) :
    block.Opens position lines (lines.take count ++ before) first rest where
  lines_eq := by rw [List.append_assoc, ← h.lines_eq, List.take_append_drop]
  opening_eq := by
    have hlength := congrArg List.length h.lines_eq
    rw [List.length_drop, List.length_append, List.length_cons] at hlength
    rw [h.opening_eq, List.length_append, List.length_take_of_le (by omega), Nat.add_assoc]
  brace := h.brace
  closing_eq := h.closing_eq

/-- Some line among those from a position on opens the block. -/
def Block.OpensAmong (position : Nat) (lines : List (List Char)) (block : Block) : Prop :=
  ∃ before first rest, block.Opens position lines before first rest

theorem Block.OpensAmong.of_drop {position : Nat} (count : Nat) {lines : List (List Char)}
    {block : Block} (h : block.OpensAmong (position + count) (lines.drop count)) :
    block.OpensAmong position lines := by
  rcases h with ⟨before, first, rest, hopens⟩
  exact ⟨_, first, rest, hopens.of_drop count⟩

/-- The search finds blocks that open on a line with a brace. -/
theorem opensAmong_of_mem_blocksFrom (position : Nat) (lines : List (List Char)) :
    ∀ block ∈ blocksFrom position lines, block.OpensAmong position lines := by
  fun_induction blocksFrom position lines with
  | case1 position => simp
  | case2 position line rest hheader ih => exact fun block hblock => (ih block hblock).of_drop 1
  | case3 position line rest hheader hbrace distance ih =>
      intro block hblock
      rcases List.mem_cons.1 hblock with rfl | hlater
      · exact ⟨[], line, rest, rfl, rfl, List.contains_iff_mem.1 hbrace, rfl⟩
      · exact (ih block hlater).of_drop (distance + 1)
  | case4 position line rest hheader hbrace hrest ih =>
      exact fun block hblock => (ih block hblock).of_drop 1
  | case5 position line rest hheader hbrace next others hrest hopens opening distance ih =>
      -- both blocks open behind the header and the blank lines
      have hbehind {block : Block} (h : block.OpensAmong opening (next :: others)) :
          block.OpensAmong position (line :: rest) := by
        rw [← hrest] at h
        exact .of_drop 1 (.of_drop (leadingBlank rest) h)
      intro block hblock
      rcases List.mem_cons.1 hblock with rfl | hlater
      · have hnext : '{' ∈ next := by
          rcases Option.isSome_iff_exists.1 hopens with ⟨behind, hafter⟩
          have hmem : '{' ∈ trim next := by
            rw [afterPrefix_eq_some.1 hafter]
            exact List.mem_cons_self
          rw [← List.contains_iff_mem, ← (padded_trim next).contains_eq (by decide)] at hmem
          exact List.contains_iff_mem.1 hmem
        exact hbehind ⟨[], next, others, rfl, rfl, hnext, rfl⟩
      · exact hbehind ((ih block hlater).of_drop (distance + 1))
  | case6 position line rest hheader hbrace next others hrest hopens ih =>
      exact fun block hblock => (ih block hblock).of_drop 1

/-- A block of lines opens on a line with a brace and closes at the next closing brace. -/
theorem opensAmong_of_mem_blocks {lines : List (List Char)} {block : Block}
    (h : block ∈ blocks lines) : block.OpensAmong 0 lines :=
  opensAmong_of_mem_blocksFrom 0 lines block h

/-! ## Texts of several lines -/

theorem afterBrace_append {first : List Char} (h : '{' ∈ first) (behind : List Char) :
    afterBrace (first ++ behind) = afterBrace first ++ behind := by
  have hne : first.dropWhile (· != '{') ≠ [] := by
    rw [Ne, List.dropWhile_eq_nil_iff]
    intro hall
    simpa using hall '{' h
  rw [afterBrace, afterBrace, List.dropWhile_append, if_neg (by simpa using hne),
    List.drop_append_of_le_length (List.length_pos_iff.2 hne)]

/-- What follows the first brace of lines follows the first brace of their first line. -/
theorem afterBrace_intercalate {first : List Char} (h : '{' ∈ first) (rest : List (List Char)) :
    afterBrace (List.intercalate ['\n'] (first :: rest)) =
      List.intercalate ['\n'] (afterBrace first :: rest) := by
  cases rest with
  | nil => rw [List.intercalate_singleton, List.intercalate_singleton]
  | cons next others =>
      rw [List.intercalate_cons_cons, List.intercalate_cons_cons,
        List.append_assoc, List.append_assoc, afterBrace_append h]

/-- How many lines stand before the first one with a closing brace. -/
def countUnclosed (lines : List (List Char)) : Nat :=
  (lines.takeWhile fun line => !line.contains '}').length

theorem countUnclosed_of_mem {line : List Char} (h : '}' ∈ line) (rest : List (List Char)) :
    countUnclosed (line :: rest) = 0 := by
  simp [countUnclosed, h]

theorem countUnclosed_of_not_mem {line : List Char} (h : '}' ∉ line) (rest : List (List Char)) :
    countUnclosed (line :: rest) = countUnclosed rest + 1 := by
  simp [countUnclosed, h]

/-- A block closes on the first of its lines with a closing brace. -/
theorem closingDistance_eq (first : List Char) (rest : List (List Char)) :
    closingDistance first rest = countUnclosed (afterBrace first :: rest) := by
  unfold closingDistance
  by_cases hclose : '}' ∈ afterBrace first
  · rw [if_pos (List.contains_iff_mem.2 hclose), countUnclosed_of_mem hclose]
  · rw [if_neg (mt List.contains_iff_mem.1 hclose), countUnclosed_of_not_mem hclose]
    rfl

/-- The words before the first closing brace of lines, line by line. -/
theorem words_takeWhile_intercalate (lines : List (List Char)) :
    words ((List.intercalate ['\n'] lines).takeWhile (· != '}')) =
      (lines.take (countUnclosed lines + 1)).flatMap
        fun line => words (line.takeWhile (· != '}')) := by
  induction lines with
  | nil => rw [List.intercalate_nil, List.takeWhile_nil, words_nil, List.take_nil, List.flatMap_nil]
  | cons line rest ih =>
      cases rest with
      | nil =>
        rw [List.intercalate_singleton, List.take_of_length_le (by simp), List.flatMap_singleton]
      | cons next others =>
          rw [List.intercalate_cons_cons, List.append_assoc, List.takeWhile_append]
          by_cases hclose : '}' ∈ line
          · have hstop : (line.takeWhile (· != '}')).length ≠ line.length := by
              intro hlength
              have hall := List.takeWhile_eq_self_iff.1
                ((List.takeWhile_prefix _).eq_of_length hlength)
              simpa using hall '}' hclose
            rw [if_neg hstop, countUnclosed_of_mem hclose, List.take_succ_cons, List.take_zero,
              List.flatMap_singleton]
          · have hline := takeWhile_ne_of_not_mem hclose
            rw [hline, if_pos rfl, countUnclosed_of_not_mem hclose, List.take_succ_cons,
              List.flatMap_cons, ← ih, hline]
            exact words_append_blank (by decide) line _

/-! ## Lines of a block -/

theorem Block.owns_iff {block : Block} {position : Nat} :
    block.owns position = true ↔ block.opening ≤ position ∧ position ≤ block.closing := by
  rw [Block.owns, Bool.and_eq_true, decide_eq_true_eq, decide_eq_true_eq]

/-- Lines are numbered from the first number on. -/
theorem bounds_of_mem_numberFrom {first : Nat} {lines : List (List Char)}
    {line : Nat × List Char} (h : line ∈ numberFrom first lines) :
    first ≤ line.1 ∧ line.1 < first + lines.length := by
  rcases mem_numberFrom.1 h with ⟨hle, hget⟩
  have hlt := (List.getElem?_eq_some_iff.1 hget).1
  omega

namespace Block.Opens

variable {lines before rest : List (List Char)} {first : List Char} {block : Block}
  (h : block.Opens 0 lines before first rest)
include h

theorem text_eq :
    block.text lines =
      (List.intercalate ['\n'] (afterBrace first :: rest)).takeWhile (· != '}') := by
  have hdrop : lines.drop block.opening = first :: rest := by
    rw [h.opening_eq, Nat.zero_add, h.lines_eq, List.drop_left]
  rw [Block.text, hdrop, afterBrace_intercalate h.brace]

/-- A block owns its opening line and those behind it, up to the closing one. -/
theorem filter_owns :
    (numbered lines).filter (fun line => block.owns (line.1 - 1)) =
      numberFrom (block.opening + 1) ((first :: rest).take (closingDistance first rest + 1)) := by
  have hopening : block.opening = before.length := by rw [h.opening_eq, Nat.zero_add]
  have hclosing := h.closing_eq
  generalize hdistance : closingDistance first rest = distance at hclosing ⊢
  have hlines : lines = before ++
      ((first :: rest).take (distance + 1) ++ (first :: rest).drop (distance + 1)) := by
    rw [List.take_append_drop, h.lines_eq]
  rw [numbered, hlines, numberFrom_append, numberFrom_append, List.filter_append,
    List.filter_append, hopening, Nat.add_comm before.length 1]
  have hbefore : ∀ line ∈ numberFrom 1 before, ¬ block.owns (line.1 - 1) = true := by
    intro line hline
    have hbounds := bounds_of_mem_numberFrom hline
    rw [Block.owns_iff]
    omega
  have howned : ∀ line ∈ numberFrom (1 + before.length) ((first :: rest).take (distance + 1)),
      block.owns (line.1 - 1) = true := by
    intro line hline
    have hbounds := bounds_of_mem_numberFrom hline
    have htaken := List.length_take_le (distance + 1) (first :: rest)
    rw [Block.owns_iff]
    omega
  have hafter : ∀ line ∈ numberFrom
      (1 + before.length + ((first :: rest).take (distance + 1)).length)
      ((first :: rest).drop (distance + 1)), ¬ block.owns (line.1 - 1) = true := by
    intro line hline
    have hbounds := bounds_of_mem_numberFrom hline
    rw [List.length_take, List.length_drop] at hbounds
    rw [Block.owns_iff]
    omega
  rw [List.filter_eq_nil_iff.2 hbefore, List.filter_eq_self.2 howned,
    List.filter_eq_nil_iff.2 hafter, List.nil_append, List.append_nil]

end Block.Opens

end Notation

namespace Construct

open Notation Text

/-- Behind its opening line a block holds whole lines, but for the one that closes it. -/
theorem map_insideBlock_behind {block : Block} {position : Nat} {rest : List (List Char)}
    (hopening : block.opening < position)
    (hclosing : block.closing = position + countUnclosed rest) :
    (numberFrom (position + 1) (rest.take (countUnclosed rest + 1))).map
        (fun line => insideBlock block (line.1 - 1) line.2) =
      (rest.take (countUnclosed rest + 1)).map fun line => line.takeWhile (· != '}') := by
  induction rest generalizing position with
  | nil => rfl
  | cons line rest ih =>
      have hinside : insideBlock block position line =
          if position = block.closing then line.takeWhile (· != '}') else line := by
        rw [insideBlock, if_neg (Nat.ne_of_gt hopening)]
      by_cases hclose : '}' ∈ line
      · rw [countUnclosed_of_mem hclose] at hclosing ⊢
        simp [numberFrom_cons, hinside, hclosing]
      · rw [countUnclosed_of_not_mem hclose] at hclosing ⊢
        rw [List.take_succ_cons, numberFrom_cons, List.map_cons, List.map_cons,
          ih (Nat.lt_succ_of_lt hopening) (by omega)]
        simp only [Nat.add_sub_cancel]
        rw [hinside, if_neg (by omega), takeWhile_ne_of_not_mem hclose]

section Opens

variable {lines before rest : List (List Char)} {first : List Char} {block : Block}
  (h : block.Opens 0 lines before first rest)
include h

/-- What the lines of a block hold of it. -/
theorem map_insideBlock :
    ((numbered lines).filter fun line => block.owns (line.1 - 1)).map
        (fun line => insideBlock block (line.1 - 1) line.2) =
      ((afterBrace first :: rest).take (closingDistance first rest + 1)).map
        fun line => line.takeWhile (· != '}') := by
  have hclosing := h.closing_eq
  rw [h.filter_owns, List.take_succ_cons, List.take_succ_cons, numberFrom_cons, List.map_cons,
    List.map_cons]
  rw [closingDistance_eq] at hclosing ⊢
  have hinside : insideBlock block block.opening first =
      if block.opening = block.closing then (afterBrace first).takeWhile (· != '}')
      else afterBrace first := by
    rw [insideBlock, if_pos rfl]
  by_cases hclose : '}' ∈ afterBrace first
  · rw [countUnclosed_of_mem hclose] at hclosing ⊢
    simp [hinside, hclosing]
  · rw [countUnclosed_of_not_mem hclose] at hclosing ⊢
    rw [map_insideBlock_behind (Nat.lt_succ_self _) (by omega)]
    simp only [Nat.add_sub_cancel]
    rw [hinside, if_neg (by omega), takeWhile_ne_of_not_mem hclose]

/-- The words of a block are those within its lines. -/
theorem words_text :
    words (block.text lines) =
      ((numbered lines).filter fun line => block.owns (line.1 - 1)).flatMap
        fun line => words (insideBlock block (line.1 - 1) line.2) := by
  have hinside := congrArg (List.flatMap words) (map_insideBlock h)
  rw [List.flatMap_map, List.flatMap_map, closingDistance_eq] at hinside
  rw [h.text_eq, words_takeWhile_intercalate, hinside]

/-- A block declares as many children as its text has words `component`. -/
theorem length_childDeclarations :
    (childDeclarations block (numbered lines)).length =
      (words (block.text lines)).count childWord := by
  rw [words_text h, childDeclarations, List.length_flatMap, List.count_flatMap]
  simp only [List.length_map, length_splitChildren]
  rfl

/-- The children of a block follow its text, word by word. -/
theorem childDeclarations_sublist :
    ((childDeclarations block (numbered lines)).flatMap
        fun declared => childWord :: words declared.body).Sublist (words (block.text lines)) := by
  rw [words_text h, childDeclarations, List.flatMap_assoc]
  refine List.Sublist.flatMap_right _ fun line _ => ?_
  rcases words_eq_splitChildren (insideBlock block (line.1 - 1) line.2) with ⟨leading, -, hwords⟩
  rw [hwords, List.flatMap_map]
  exact List.sublist_append_right _ _

end Opens

/-- The children of a block stand on the lines that it owns. -/
theorem owns_of_mem_childDeclarations {block : Block} {lines : List (Nat × List Char)}
    {declared : Declaration} (h : declared ∈ childDeclarations block lines) :
    block.owns (declared.line - 1) = true := by
  rcases List.mem_flatMap.1 h with ⟨line, hline, hbody⟩
  rcases List.mem_map.1 hbody with ⟨body, -, rfl⟩
  exact (List.mem_filter.1 hline).2

/-- The children of a block follow its lines. -/
theorem pairwise_line_childDeclarations (block : Block) (lines : List (List Char)) :
    ((childDeclarations block (numbered lines)).map Declaration.line).Pairwise (· ≤ ·) := by
  have hlines : (numbered lines).Pairwise fun line next => line.1 < next.1 :=
    List.pairwise_map.1 (pairwise_numbered lines)
  rw [childDeclarations, List.map_flatMap, List.pairwise_flatMap]
  simp only [List.map_map]
  constructor
  · -- children on one line
    intro line _
    rw [List.pairwise_map]
    exact List.pairwise_of_forall fun _ _ => Nat.le_refl _
  · refine (hlines.sublist List.filter_sublist).imp ?_
    intro line next hlt number hnumber other hother
    rcases List.mem_map.1 hnumber with ⟨body, -, rfl⟩
    rcases List.mem_map.1 hother with ⟨body', -, rfl⟩
    exact Nat.le_of_lt hlt

end Construct
end Wardley
