import Wardley.Notation.Comments
import Wardley.Proofs.Notation.BlockScan
import Wardley.Proofs.Text.Padding

/-!
# Padded lines

Comments are erased from a padded line as from its core, up to blanks at the ends of what
is left.  The blocks of padded lines are those of their cores, because a header, a blank
line and a brace are recognized by characters that are not blank.

Main results:

- `map_trim_eraseLines`: trimmed lines without comments.
- `keywordBody?_append`: the body of a line that is written behind a keyword.
- `blocks_map_trim`: the blocks of trimmed lines.
-/

namespace Wardley
namespace Notation

open Text

variable {core text : List Char}

/-! ## Line comments -/

/-- A line comment is cut from a padded line as from its core. -/
theorem padded_cutLineComment (h : Padded core text) :
    Padded (cutLineComment core) (cutLineComment text) := by
  have hsolid : ['/', '/'].any isBlank = false := by decide
  unfold cutLineComment
  rw [h.trim_eq]
  split
  · exact h
  · rcases h.breakAt_eq hsolid (List.cons_ne_nil _ _) with
      ⟨hcore, htext⟩ | ⟨kept, rest, kept', rest', hcore, htext, hkept, -⟩
    · simp only [before, hcore, htext]
      exact h
    · simp only [before, hcore, htext]
      exact hkept

/-! ## Block comments -/

/-- The delimiter that is waited for inside and outside a block comment. -/
def commentDelimiter (inside : Bool) : List Char := if inside then ['*', '/'] else ['/', '*']

/-- What stands behind a delimiter is shorter than the line. -/
theorem length_lt_of_breakAt {inside : Bool} {line kept after : List Char}
    (h : breakAt (commentDelimiter inside) line = some (kept, after)) :
    after.length < line.length := by
  have hlength := congrArg List.length (breakAt_append h)
  have hpos : 0 < (commentDelimiter inside).length := by
    cases inside <;> decide
  simp only [List.length_append] at hlength
  omega

/-- Without the delimiter, the rest of a line lies where its beginning does. -/
theorem piecesOutside_of_none {inside : Bool} {line : List Char}
    (h : breakAt (commentDelimiter inside) line = none) :
    piecesOutside inside line = (if inside ∨ line = [] then [] else [line], inside) := by
  cases line with
  | nil =>
      rw [piecesOutside]
      simp
  | cons c rest =>
      unfold piecesOutside
      cases inside with
      | false =>
          simp only [commentDelimiter] at h
          split
          · contradiction
          · split <;> simp_all
      | true =>
          simp only [commentDelimiter] at h
          split
          · split <;> simp_all
          · contradiction

/-- At the delimiter, the rest of a line changes sides. -/
theorem piecesOutside_of_some {inside : Bool} {line kept after : List Char}
    (h : breakAt (commentDelimiter inside) line = some (kept, after)) :
    piecesOutside inside line =
      ((if inside then [] else [kept]) ++ (piecesOutside (!inside) after).1,
        (piecesOutside (!inside) after).2) := by
  cases line with
  | nil => cases inside <;> simp [commentDelimiter, breakAt, afterPrefix] at h
  | cons c rest =>
      rw [piecesOutside]
      cases inside with
      | false =>
          simp only [commentDelimiter] at h
          split
          · contradiction
          · split <;> simp_all
      | true =>
          simp only [commentDelimiter] at h
          split
          · split <;> simp_all
          · contradiction

/-- The trimmed pieces that are not blank. -/
def keptPieces (pieces : List (List Char)) : List (List Char) :=
  (pieces.map trim).filter fun piece => !piece.isEmpty

/-- The pieces kept of two lists are kept of each. -/
theorem keptPieces_append (first second : List (List Char)) :
    keptPieces (first ++ second) = keptPieces first ++ keptPieces second := by
  rw [keptPieces, List.map_append, List.filter_append]
  rfl

/-- Padding does not change whether a piece is kept. -/
theorem keptPieces_padded {core text : List Char} (h : Padded core text) :
    keptPieces [text] = keptPieces [core] := by
  rw [keptPieces, keptPieces, List.map_singleton, List.map_singleton, h.trim_eq]

/-- An empty line counts like a blank piece. -/
theorem keptPieces_ite (line : List Char) :
    keptPieces (if line = [] then [] else [line]) = keptPieces [line] := by
  by_cases hline : line = []
  · rw [if_pos hline, hline]
    rfl
  · rw [if_neg hline]

/-- Block comments are erased from a padded line as from its core. -/
theorem piecesOutside_padded {core text : List Char} (inside : Bool) (h : Padded core text) :
    keptPieces (piecesOutside inside text).1 = keptPieces (piecesOutside inside core).1 ∧
      (piecesOutside inside text).2 = (piecesOutside inside core).2 := by
  have hsolid : (commentDelimiter inside).any isBlank = false := by
    cases inside <;> decide
  have hne : commentDelimiter inside ≠ [] := by
    cases inside <;> decide
  rcases h.breakAt_eq hsolid hne with
    ⟨hcore, htext⟩ | ⟨kept, rest, kept', rest', hcore, htext, hkept, hrest⟩
  · rw [piecesOutside_of_none hcore, piecesOutside_of_none htext]
    refine ⟨?_, rfl⟩
    cases inside with
    | true => rfl
    | false =>
        simp only [Bool.false_eq_true, false_or, keptPieces_ite]
        exact keptPieces_padded h
  · have hlater := piecesOutside_padded (!inside) hrest
    rw [piecesOutside_of_some hcore, piecesOutside_of_some htext]
    refine ⟨?_, hlater.2⟩
    rw [keptPieces_append, keptPieces_append, hlater.1]
    cases inside with
    | true => rfl
    | false => exact congrArg (· ++ _) (keptPieces_padded hkept)
termination_by core.length
decreasing_by exact length_lt_of_breakAt hcore

/-- Erasing blocks from a padded text leaves the same trimmed text, inside or outside a block. -/
theorem eraseBlocks_padded {core text : List Char} (inside : Bool) (h : Padded core text) :
    trim (eraseBlocks inside text).1 = trim (eraseBlocks inside core).1 ∧
      (eraseBlocks inside text).2 = (eraseBlocks inside core).2 := by
  have hsolid : ['/', '*'].any isBlank = false := by decide
  have hoccurs := h.occurs_eq hsolid (List.cons_ne_nil _ _)
  unfold eraseBlocks
  rw [hoccurs]
  split
  · exact ⟨h.trim_eq, rfl⟩
  · have hpieces := piecesOutside_padded inside h
    have hjoin : joinPieces (piecesOutside inside text).1 =
        joinPieces (piecesOutside inside core).1 := congrArg (List.intercalate [' ']) hpieces.1
    exact ⟨congrArg trim hjoin, hpieces.2⟩

/-- Trimming lines before comments are erased changes nothing but the blanks around them. -/
theorem map_trim_eraseLines (inside : Bool) (lines : List (List Char)) :
    (eraseLines inside (lines.map trim)).map trim = (eraseLines inside lines).map trim := by
  induction lines generalizing inside with
  | nil => rfl
  | cons line rest ih =>
      have herased := eraseBlocks_padded inside (padded_cutLineComment (padded_trim line))
      simp only [List.map_cons, eraseLines, ← herased.1, ← herased.2, ih]

/-! ## Keywords -/

/-- The body behind a keyword is the same on a trimmed line. -/
@[simp] theorem keywordBody?_trim (keyword line : List Char) :
    keywordBody? keyword (trim line) = keywordBody? keyword line := by
  rw [keywordBody?, keywordBody?, trim_trim]

/-- Behind a keyword and a blank stands the body that a line declares. -/
theorem keywordBody?_append {keyword lead rest : List Char} (hne : keyword ≠ [])
    (hsolid : ∀ c ∈ keyword, isBlank c = false) (hlead : ∀ c ∈ lead, isBlank c)
    (hrest : ∀ c ∈ rest.head?, isBlank c) :
    keywordBody? keyword (lead ++ (keyword ++ rest)) = some (trim rest) := by
  have hkeyword : trim keyword = keyword := trim_eq_self_iff.2
    ⟨fun c hc => hsolid c (List.mem_of_mem_head? hc),
      fun c hc => hsolid c (List.mem_of_getLast? hc)⟩
  have hline : trim (lead ++ (keyword ++ rest)) = keyword ++ trimEnd rest := by
    rw [← trim_append hkeyword hne, trim, trimStart_blank_append hlead, trim]
  rw [keywordBody?, hline, afterPrefix_eq_some.2 rfl, ← trim_trimEnd_eq rest]
  cases hend : trimEnd rest with
  | nil => rfl
  | cons c tail =>
      have hc : isBlank c = true := by
        rcases trimEnd_prefix rest with ⟨blanks, hblanks⟩
        rw [hend] at hblanks
        exact hrest c (by rw [← hblanks]; rfl)
      exact (if_pos hc).trans (congrArg some (trim_cons_blank hc tail).symm)

/-- A trimmed line is reserved exactly when the line is. -/
@[simp] theorem isReserved_trim (line : List Char) : isReserved (trim line) = isReserved line := by
  simp only [isReserved, keywordBody?_trim]

/-! ## Blocks -/

/-- A trimmed line is a header exactly when the line is. -/
@[simp] theorem isHeader_trim (line : List Char) : isHeader (trim line) = isHeader line := by
  rw [isHeader, isHeader, keywordBody?_trim]

/-- A line that another character begins than the keyword is no header. -/
theorem isHeader_of_head {lead rest : List Char} {c : Char} (hlead : ∀ d ∈ lead, isBlank d)
    (hc : isBlank c = false) (hne : c ≠ 'p') : isHeader (lead ++ c :: rest) = false := by
  have hfirst : trim [c] = [c] := trim_eq_self_iff.2 (by simp [hc])
  have hline : trim (lead ++ c :: rest) = c :: trimEnd rest := by
    rw [trim, trimStart_blank_append hlead, ← trim]
    exact trim_append hfirst (List.cons_ne_nil _ _) rest
  have hnone : afterPrefix "pipeline".toList (c :: trimEnd rest) = none := if_neg (Ne.symm hne)
  rw [isHeader, keywordBody?, hline, hnone]
  rfl

/-- A trimmed line is blank exactly when the line is. -/
@[simp] theorem isAllBlank_trim (line : List Char) : isAllBlank (trim line) = isAllBlank line := by
  have hiff (text : List Char) : isAllBlank text = true ↔ trim text = [] := by
    rw [trim_eq_nil_iff, isAllBlank, List.all_eq_true]
  rw [Bool.eq_iff_iff, hiff, hiff, trim_trim]

/-- The rest behind a brace of a padded line is padded. -/
theorem padded_afterBrace {core text : List Char} (h : Padded core text) :
    Padded (afterBrace core) (afterBrace text) :=
  h.drop_dropWhile_ne (by decide)

/-- A trimmed line opens the same block. -/
@[simp] theorem enter_trim (header position : Nat) (line : List Char) :
    ScanState.enter header position (trim line) = ScanState.enter header position line := by
  have hafter := (padded_afterBrace (padded_trim line)).contains_eq (c := '}') (by decide)
  rw [ScanState.enter, ScanState.enter, hafter]

/-- A step of the scan looks at the line without the blanks around it. -/
@[simp] theorem step_trim (position : Nat) (line : List Char) (state : ScanState) :
    state.step position (trim line) = state.step position line := by
  have hopen := (padded_trim line).contains_eq (c := '{') (by decide)
  have hclose := (padded_trim line).contains_eq (c := '}') (by decide)
  have hbegin : ScanState.begin position (trim line) = ScanState.begin position line := by
    rw [ScanState.begin, ScanState.begin, isHeader_trim, hopen, enter_trim]
  cases state with
  | outside => exact hbegin
  | pending header =>
      rw [ScanState.step, ScanState.step, isAllBlank_trim, trim_trim, enter_trim, hbegin]
  | inside header opening => rw [ScanState.step, ScanState.step, hclose]

/-- Trimmed lines are scanned alike. -/
theorem scan_map_trim (last position : Nat) (state : ScanState) (lines : List (List Char)) :
    scan last state (numberFrom position (lines.map trim)) =
      scan last state (numberFrom position lines) := by
  induction lines generalizing position state with
  | nil => rfl
  | cons line rest ih => simp only [List.map_cons, numberFrom_cons, scan, step_trim, ih]

/-- The blocks of trimmed lines. -/
@[simp] theorem blocks_map_trim (lines : List (List Char)) :
    blocks (lines.map trim) = blocks lines := by
  rw [blocks_eq_scan, blocks_eq_scan, List.length_map, scan_map_trim]

end Notation
end Wardley
