import Wardley.Proofs.Notation.Comments
import Wardley.Proofs.Notation.Padding
import Wardley.Proofs.Text.Lines

/-!
# Scanning for comments

A comment scanner reads a line one character at a time and remembers a single bit, which
says whether it stands in a block comment.  Erasing comments searches for delimiters and
jumps behind them; it yields what the scanner yields, with as many lines, and no line is
left that opens a block.

Main definitions:

- `IsAddress`: the lines that keep their slashes.
- `scanRuns`: the runs of characters that the scanner keeps of a line.
- `scanLines`: the lines that the scanner leaves.

Main results:

- `scanRuns_eq_piecesOutside`: the scanner keeps what searching keeps.
- `lines_eraseComments`: the lines of a text without comments.
- `eraseComments_eq_scan`: erasing comments is scanning for them.
-/

namespace Wardley
namespace Notation

open Text

/-! ## The scanner -/

/-- A line about an address: it begins with `url`, after blanks perhaps. -/
def IsAddress (line : List Char) : Prop := "url".toList <+: trim line

instance (line : List Char) : Decidable (IsAddress line) :=
  inferInstanceAs (Decidable (_ <+: _))

/-- A line up to its first two slashes. -/
def beforeSlashes : List Char → List Char
  | '/' :: '/' :: _ => []
  | c :: rest => c :: beforeSlashes rest
  | [] => []

/--
The runs of characters that a scanner keeps of a line when it starts in a block comment or
outside, and whether it ends in one.  The first run is the one that it stands in.
-/
def scanRuns : Bool → List Char → List (List Char) × Bool
  | false, [] => ([[]], false)
  | true, [] => ([], true)
  | false, '/' :: '*' :: rest => ([] :: (scanRuns true rest).1, (scanRuns true rest).2)
  | false, c :: rest => ((scanRuns false rest).1.modifyHead (c :: ·), (scanRuns false rest).2)
  | true, '*' :: '/' :: rest => scanRuns false rest
  | true, _ :: rest => scanRuns true rest

/-- A line as the scanner leaves it, and whether the scanner ends in a block comment. -/
def scanLine (inside : Bool) (line : List Char) : List Char × Bool :=
  let cut := if IsAddress line then line else beforeSlashes line
  if inside = false ∧ ¬ ['/', '*'] <:+: cut then (cut, false)
  else
    (List.intercalate [' '] (((scanRuns inside cut).1.map trim).filter (· ≠ [])),
      (scanRuns inside cut).2)

/-- Lines as the scanner leaves them; it begins each line as it has ended the one before. -/
def scanLines (inside : Bool) : List (List Char) → List (List Char)
  | [] => []
  | line :: rest => (scanLine inside line).1 :: scanLines (scanLine inside line).2 rest

/-! ## Line comments -/

theorem beforeSlashes_eq (line : List Char) : beforeSlashes line = before ['/', '/'] line := by
  fun_induction beforeSlashes line with
  | case1 rest => rfl
  | case2 c rest hslashes ih =>
      have hnone : afterPrefix ['/', '/'] (c :: rest) = none := by
        rw [afterPrefix_eq_none_iff]
        rintro ⟨behind, hbehind⟩
        cases hbehind
        exact hslashes behind rfl rfl
      rw [before, breakAt, hnone, ih, before]
      cases breakAt ['/', '/'] rest <;> rfl
  | case3 => rfl

theorem cutLineComment_eq (line : List Char) :
    cutLineComment line = if IsAddress line then line else before ['/', '/'] line := by
  rw [cutLineComment]
  exact if_congr startsWith_iff_prefix rfl rfl

/-! ## Block comments -/

/-- A line is read from delimiter to delimiter, on the other side behind each. -/
@[elab_as_elim]
theorem delimiterInduction {motive : Bool → List Char → Prop}
    (whole : ∀ inside line, breakAt (commentDelimiter inside) line = none → motive inside line)
    (parts : ∀ inside line kept after,
      breakAt (commentDelimiter inside) line = some (kept, after) →
        motive (!inside) after → motive inside line)
    (inside : Bool) (line : List Char) : motive inside line := by
  cases hbreak : breakAt (commentDelimiter inside) line with
  | none => exact whole inside line hbreak
  | some found =>
      exact parts inside line found.1 found.2 hbreak (delimiterInduction whole parts _ _)
termination_by line.length
decreasing_by exact length_lt_of_breakAt hbreak

/-- A character at which the awaited delimiter does not begin is kept outside and dropped inside. -/
theorem scanRuns_cons {inside : Bool} {c : Char} {rest : List Char}
    (h : ¬ commentDelimiter inside <+: c :: rest) :
    scanRuns inside (c :: rest) =
      (if inside then (scanRuns inside rest).1 else (scanRuns inside rest).1.modifyHead (c :: ·),
        (scanRuns inside rest).2) := by
  cases inside with
  | false =>
      rw [scanRuns]
      · rfl
      · rintro behind rfl rfl
        exact h ⟨behind, rfl⟩
  | true =>
      rw [scanRuns]
      · rfl
      · rintro behind rfl rfl
        exact h ⟨behind, rfl⟩

/-- Without the delimiter that it waits for, the scanner stays where it is. -/
theorem scanRuns_of_none {inside : Bool} {line : List Char}
    (h : breakAt (commentDelimiter inside) line = none) :
    scanRuns inside line = (if inside then [] else [line], inside) := by
  induction line with
  | nil => cases inside <;> rfl
  | cons c rest ih =>
      rw [breakAt_eq_none_iff, List.infix_cons_iff, not_or] at h
      rw [scanRuns_cons h.1, ih (breakAt_eq_none_iff.2 h.2)]
      cases inside <;> rfl

/-- At the delimiter that it waits for, the scanner changes sides. -/
theorem scanRuns_of_some {inside : Bool} {line kept after : List Char}
    (h : breakAt (commentDelimiter inside) line = some (kept, after)) :
    scanRuns inside line =
      ((if inside then [] else [kept]) ++ (scanRuns (!inside) after).1,
        (scanRuns (!inside) after).2) := by
  induction line generalizing kept with
  | nil => cases inside <;> cases h
  | cons c rest ih =>
      rw [breakAt] at h
      split at h
      · rename_i behind hbehind
        cases h
        rw [afterPrefix_eq_some.1 hbehind]
        cases inside <;> rfl
      · rename_i hnone
        rcases Option.map_eq_some_iff.1 h with ⟨⟨kept', after'⟩, hlater, hparts⟩
        cases hparts
        rw [scanRuns_cons (afterPrefix_eq_none_iff.1 hnone), ih hlater]
        cases inside <;> rfl

/-- The scanner keeps what searching keeps, and ends on the same side. -/
theorem scanRuns_eq_piecesOutside (inside : Bool) (line : List Char) :
    keptPieces (scanRuns inside line).1 = keptPieces (piecesOutside inside line).1 ∧
      (scanRuns inside line).2 = (piecesOutside inside line).2 := by
  induction inside, line using delimiterInduction with
  | whole inside line hbreak =>
      rw [scanRuns_of_none hbreak, piecesOutside_of_none hbreak]
      refine ⟨?_, rfl⟩
      cases inside with
      | true => rfl
      | false =>
          simp only [Bool.false_eq_true, false_or, if_false]
          exact (keptPieces_ite line).symm
  | parts inside line kept after hbreak ih =>
      rw [scanRuns_of_some hbreak, piecesOutside_of_some hbreak, keptPieces_append,
        keptPieces_append, ih.1]
      exact ⟨rfl, ih.2⟩

theorem scanLine_eq (inside : Bool) (line : List Char) :
    scanLine inside line = eraseBlocks inside (cutLineComment line) := by
  have hcut : (if IsAddress line then line else beforeSlashes line) = cutLineComment line := by
    rw [cutLineComment_eq, beforeSlashes_eq]
  have htest : (inside = false ∧ ¬ ['/', '*'] <:+: cutLineComment line) ↔
      (!inside && !occurs ['/', '*'] (cutLineComment line)) = true := by
    rw [← occurs_iff_isInfix]
    simp
  have hruns := scanRuns_eq_piecesOutside inside (cutLineComment line)
  have hkept (pieces : List (List Char)) :
      (pieces.map trim).filter (· ≠ []) = keptPieces pieces := by
    refine List.filter_congr fun piece _ => ?_
    cases piece <;> rfl
  simp only [scanLine, hcut, hkept, hruns.1, hruns.2]
  exact if_congr htest rfl rfl

theorem scanLines_eq (inside : Bool) (lines : List (List Char)) :
    scanLines inside lines = eraseLines inside lines := by
  induction lines generalizing inside with
  | nil => rfl
  | cons line rest ih => simp only [scanLines, eraseLines, scanLine_eq, ih]

/-! ## What is left of a line -/

/-- A piece outside block comments is a part of its line in which no block opens. -/
theorem mem_piecesOutside {inside : Bool} {line piece : List Char}
    (h : piece ∈ (piecesOutside inside line).1) :
    piece <:+: line ∧ ¬ ['/', '*'] <:+: piece := by
  induction inside, line using delimiterInduction with
  | whole inside line hbreak =>
      rw [piecesOutside_of_none hbreak] at h
      cases inside with
      | true => simp at h
      | false =>
          have hpiece : piece = line := by
            split at h <;> simp_all
          rw [hpiece]
          exact ⟨List.infix_refl line, breakAt_eq_none_iff.1 hbreak⟩
  | parts inside line kept after hbreak ih =>
      rw [piecesOutside_of_some hbreak, List.mem_append] at h
      rcases h with hkept | hlater
      · cases inside with
        | true => simp at hkept
        | false =>
            have hpiece : piece = kept := by simpa using hkept
            rw [hpiece]
            exact ⟨(prefix_of_breakAt hbreak).isInfix,
              not_isInfix_of_breakAt (List.cons_ne_nil _ _) hbreak⟩
      · exact ⟨(ih hlater).1.trans (suffix_of_breakAt hbreak).isInfix, (ih hlater).2⟩

/-- A pattern without spaces in joined pieces lies in one of them. -/
theorem isInfix_joinPieces {pattern : List Char} (hne : pattern ≠ []) (hspace : ' ' ∉ pattern)
    {pieces : List (List Char)} (h : pattern <:+: joinPieces pieces) :
    ∃ piece ∈ pieces, pattern <:+: piece := by
  rcases isInfix_intercalate hne hspace h with ⟨trimmed, hmem, hin⟩
  rcases List.mem_map.1 (List.mem_filter.1 hmem).1 with ⟨piece, hpiece, rfl⟩
  exact ⟨piece, hpiece, hin.trans (trim_isInfix piece)⟩

/-- Erasing block comments brings no pattern without spaces into a line. -/
theorem isInfix_eraseBlocks {pattern : List Char} (hne : pattern ≠ []) (hspace : ' ' ∉ pattern)
    {inside : Bool} {line : List Char} (h : pattern <:+: (eraseBlocks inside line).1) :
    pattern <:+: line := by
  unfold eraseBlocks at h
  split at h
  · exact h
  · rcases isInfix_joinPieces hne hspace h with ⟨piece, hpiece, hin⟩
    exact hin.trans (mem_piecesOutside hpiece).1

/-- No block opens in what is left of a line. -/
theorem not_isInfix_eraseBlocks (inside : Bool) (line : List Char) :
    ¬ ['/', '*'] <:+: (eraseBlocks inside line).1 := by
  intro h
  unfold eraseBlocks at h
  split at h
  · rename_i htest
    rw [Bool.and_eq_true, Bool.not_eq_true', Bool.not_eq_true'] at htest
    rw [occurs_iff_isInfix.2 h] at htest
    exact Bool.noConfusion htest.2
  · rcases isInfix_joinPieces (List.cons_ne_nil _ _) (by decide) h with ⟨piece, hpiece, hin⟩
    exact (mem_piecesOutside hpiece).2 hin

/-! ## Texts -/

/-- What is left of lines comes from one of them. -/
theorem exists_of_mem_eraseLines {inside : Bool} {lines : List (List Char)} {cleaned : List Char}
    (h : cleaned ∈ eraseLines inside lines) :
    ∃ line ∈ lines, ∃ state, cleaned = (eraseBlocks state (cutLineComment line)).1 := by
  induction lines generalizing inside with
  | nil => cases h
  | cons line rest ih =>
      rw [eraseLines, List.mem_cons] at h
      rcases h with rfl | h
      · exact ⟨line, List.mem_cons_self, inside, rfl⟩
      · rcases ih h with ⟨other, hother, state, hcleaned⟩
        exact ⟨other, List.mem_cons_of_mem _ hother, state, hcleaned⟩

/-- Lines without line feeds are left without line feeds. -/
theorem newline_notMem_eraseLines {inside : Bool} {lines : List (List Char)}
    (h : ∀ line ∈ lines, '\n' ∉ line) : ∀ cleaned ∈ eraseLines inside lines, '\n' ∉ cleaned := by
  intro cleaned hcleaned hmem
  rcases exists_of_mem_eraseLines hcleaned with ⟨line, hline, state, rfl⟩
  have hin := isInfix_eraseBlocks (List.cons_ne_nil _ _) (by decide)
    ((List.singleton_infix_iff _ _).2 hmem)
  exact h line hline
    ((cutLineComment_begins line).subset ((List.singleton_infix_iff _ _).1 hin))

theorem eraseLines_lines_ne_nil (inside : Bool) (text : List Char) :
    eraseLines inside (lines text) ≠ [] := by
  rw [Ne, ← List.length_eq_zero_iff, length_eraseLines, List.length_eq_zero_iff]
  exact List.splitOn_ne_nil _ _

/-- The lines of a text without comments. -/
theorem lines_eraseComments (text : List Char) : lines (eraseComments text) = cleanLines text :=
  lines_intercalate (eraseLines_lines_ne_nil false text)
    (newline_notMem_eraseLines fun _ hline => not_mem_of_mem_splitOn hline)

theorem not_isInfix_of_mem_cleanLines {text line : List Char} (h : line ∈ cleanLines text) :
    ¬ ['/', '*'] <:+: line := by
  rcases exists_of_mem_eraseLines h with ⟨source, -, state, rfl⟩
  exact not_isInfix_eraseBlocks state _

/--
Comments are erased as the scanner leaves them out.  The number of lines stays, and no line
is left that opens a block comment.
-/
theorem eraseComments_eq_scan (text : List Char) :
    eraseComments text = List.intercalate ['\n'] (scanLines false (lines text)) ∧
      (lines (eraseComments text)).length = (lines text).length ∧
      ∀ line ∈ lines (eraseComments text), ¬ ['/', '*'] <:+: line := by
  rw [lines_eraseComments, scanLines_eq]
  exact ⟨rfl, length_eraseLines false (lines text), fun _ => not_isInfix_of_mem_cleanLines⟩

end Notation
end Wardley
