import Wardley.Proofs.Notation.CommentScan

/-!
# The order in which comments are erased

Line comments are cut before block comments are erased, and lines about addresses keep
their slashes whether or not a block is open before them.  So slashes within a block
comment hide the end of the block, unless the line is about an address; and a line whose
`url` is hidden in a block may show slashes behind it, which a second erasing cuts.

Main definitions:

- `ClosedComment`: a block comment that is opened and closed on one line.
- `HasStraySlashes`: slashes on a line that is not about an address.
- `endsInside`: a block comment is open behind some lines.

Main results:

- `isAddress_append_slash`: the address test looks before the first slash.
- `eraseComments_closed`: what is left of a line with a closed block comment.
- `hasStraySlashes_eraseBlocks_iff`: which lines are left with stray slashes.
- `eraseComments_twice`: when a second erasing changes nothing.
-/

namespace Wardley
namespace Notation

open Text

/-! ## Lines about addresses -/

theorem isAddress_iff {line : List Char} :
    IsAddress line ↔ "url".toList <+: trimStart line := by
  have hword (text : List Char) :
      "url".toList <+: text.takeWhile isSolid ↔ "url".toList <+: text := by
    refine ⟨fun h => h.trans (List.takeWhile_prefix _), ?_⟩
    rintro ⟨rest, rfl⟩
    rw [List.takeWhile_append_of_pos (List.all_eq_true.1 rfl)]
    exact List.prefix_append _ _
  rw [IsAddress, ← hword, takeWhile_isSolid_trim, hword]

theorem isAddress_of_prefix {line : List Char} (h : "url".toList <+: line) : IsAddress line := by
  rcases h with ⟨rest, rfl⟩
  exact isAddress_iff.2 ⟨rest, rfl⟩

@[simp] theorem isAddress_trim (line : List Char) : IsAddress (trim line) ↔ IsAddress line := by
  rw [IsAddress, IsAddress, trim_trim]

/-- The address test looks before the first slash. -/
theorem isAddress_append_slash {kept rest : List Char} :
    IsAddress (kept ++ '/' :: rest) ↔ IsAddress kept := by
  rw [isAddress_iff, isAddress_iff]
  by_cases hblank : ∀ c ∈ kept, isBlank c
  · rw [trimStart_blank_append hblank, trimStart, trimStart, List.dropWhile_eq_nil_iff.2 hblank]
    simp [isBlank, blankRanges]
  · rw [trimStart_append hblank, prefix_append_cons_iff (by decide)]

/-! ## Lines on which a block opens -/

/-- Where a block opens, a line keeps what stands before it and what is left behind it. -/
theorem eraseBlocks_of_some {line kept after : List Char}
    (h : breakAt ['/', '*'] line = some (kept, after)) :
    eraseBlocks false line =
      (joinPieces (kept :: (piecesOutside true after).1), (piecesOutside true after).2) := by
  have hopens : breakAt (commentDelimiter false) line = some (kept, after) := h
  rw [eraseBlocks_of_isInfix (isInfix_of_breakAt h), piecesOutside_of_some hopens]
  rfl

/-- A block that does not end on the line hides the rest of it. -/
theorem piecesOutside_open {rest : List Char} (h : ¬ ['*', '/'] <:+: rest) :
    piecesOutside true rest = ([], true) := by
  have hnone : breakAt (commentDelimiter true) rest = none := breakAt_eq_none_iff.2 h
  rw [piecesOutside_of_none hnone]
  rfl

/-- A block that ends on the line shows the text behind it, up to the next block. -/
theorem piecesOutside_closed {rest hidden shown : List Char}
    (h : breakAt ['*', '/'] rest = some (hidden, shown)) :
    piecesOutside true rest = piecesOutside false shown := by
  have hcloses : breakAt (commentDelimiter true) rest = some (hidden, shown) := h
  rw [piecesOutside_of_some hcloses]
  rfl

/-- Text without block comments is one piece, if any. -/
theorem piecesOutside_plain {line : List Char} (h : ¬ ['/', '*'] <:+: line) :
    piecesOutside false line = (if line = [] then [] else [line], false) := by
  have hnone : breakAt (commentDelimiter false) line = none := breakAt_eq_none_iff.2 h
  rw [piecesOutside_of_none hnone]
  simp

theorem joinPieces_singleton (piece : List Char) : joinPieces [piece] = trim piece := by
  rw [joinPieces, List.map_singleton]
  cases htrim : trim piece with
  | nil => rfl
  | cons c rest => exact List.intercalate_singleton

theorem joinPieces_plain (line : List Char) :
    joinPieces (if line = [] then [] else [line]) = trim line := by
  rw [← joinPieces_singleton]
  exact congrArg (List.intercalate [' ']) (keptPieces_ite line)

/-! ## Block comments on one line -/

/-- A block comment that is opened and closed on one line, between texts without comments. -/
structure ClosedComment (before comment behind : List Char) : Prop where
  one_line : ∀ part ∈ [before, comment, behind], '\n' ∉ part
  before_plain : ¬ ['/', '/'] <:+: before ∧ ¬ ['/', '*'] <:+: before
  behind_plain : ¬ ['/', '/'] <:+: behind ∧ ¬ ['/', '*'] <:+: behind
  /-- No slash meets those of the delimiters. -/
  apart : '/' ∉ before.getLast? ∧ '/' ∉ behind.head?
  not_closed : ¬ ['*', '/'] <:+: comment

/-- A line with a block comment. -/
def commentedLine (before comment behind : List Char) : List Char :=
  before ++ '/' :: '*' :: (comment ++ '*' :: '/' :: behind)

theorem isAddress_commentedLine {before comment behind : List Char} :
    IsAddress (commentedLine before comment behind) ↔ IsAddress before :=
  isAddress_append_slash

namespace ClosedComment

variable {before comment behind : List Char} (h : ClosedComment before comment behind)
include h

theorem newline_notMem : '\n' ∉ commentedLine before comment behind := by
  have hbefore := h.one_line before (by simp)
  have hcomment := h.one_line comment (by simp)
  have hbehind := h.one_line behind (by simp)
  simp [commentedLine, hbefore, hcomment, hbehind]

/-- The line holds two slashes in a row only where the comment does. -/
theorem slashes_iff :
    ['/', '/'] <:+: commentedLine before comment behind ↔ ['/', '/'] <:+: comment := by
  have hbehind : ¬ ['/'] <+: behind := by
    rintro ⟨rest, rfl⟩
    exact h.apart.2 rfl
  simp [commentedLine, pair_isInfix_append, List.infix_cons_iff, List.cons_prefix_cons,
    h.before_plain.1, h.behind_plain.1, h.apart.1, hbehind]

/-- On a line about an address, or without slashes in the comment, no line comment is cut. -/
theorem cutLineComment_eq_self (hkeeps : IsAddress before ∨ ¬ ['/', '/'] <:+: comment) :
    cutLineComment (commentedLine before comment behind) =
      commentedLine before comment behind := by
  rw [cutLineComment_eq]
  by_cases haddress : IsAddress before
  · exact if_pos (isAddress_commentedLine.2 haddress)
  · rw [if_neg (mt isAddress_commentedLine.1 haddress),
      before_eq_self_iff (List.cons_ne_nil _ _), h.slashes_iff]
    exact hkeeps.resolve_left haddress

/-- Slashes in the comment cut its end. -/
theorem cutLineComment_of_slashes (haddress : ¬ IsAddress before)
    (hslashes : ['/', '/'] <:+: comment) :
    ∃ opened, ¬ ['*', '/'] <:+: opened ∧
      cutLineComment (commentedLine before comment behind) = before ++ '/' :: '*' :: opened := by
  rcases Option.isSome_iff_exists.1 (occurs_iff_isInfix.2 hslashes) with ⟨⟨opened, rest⟩, hcomment⟩
  have hin : opened <:+: comment := (prefix_of_breakAt hcomment).isInfix
  refine ⟨opened, fun hclose => h.not_closed (hclose.trans hin), ?_⟩
  have hrest := breakAt_append_of_some (List.cons_ne_nil _ _) hcomment ('*' :: '/' :: behind)
  have hopening : breakAt ['/', '/'] (['/', '*'] ++ (comment ++ '*' :: '/' :: behind)) =
      some (['/', '*'] ++ opened, rest ++ '*' :: '/' :: behind) := by
    rw [breakAt_pair_append (by decide) (by simp), hrest]
    rfl
  have hline : breakAt ['/', '/'] (commentedLine before comment behind) =
      some (before ++ (['/', '*'] ++ opened), rest ++ '*' :: '/' :: behind) := by
    rw [commentedLine, breakAt_pair_append h.before_plain.1 fun hseam => h.apart.1 hseam.1]
    exact congrArg (Option.map _) hopening
  rw [cutLineComment_eq, if_neg (mt isAddress_commentedLine.1 haddress), Text.before,
    hline]
  rfl

/-- The comment hides its own text only, when no line comment is cut. -/
theorem eraseBlocks_eq :
    eraseBlocks false (commentedLine before comment behind) =
      (joinPieces [before, behind], false) := by
  have hopens := breakAt_pair_of_not_isInfix (by decide) h.before_plain.2
    (comment ++ '*' :: '/' :: behind)
  have hcloses := breakAt_pair_of_not_isInfix (by decide) h.not_closed behind
  have hkept : keptPieces (before :: if behind = [] then [] else [behind]) =
      keptPieces [before, behind] := by
    rw [← List.singleton_append, keptPieces_append, keptPieces_ite, ← keptPieces_append]
    rfl
  rw [commentedLine, eraseBlocks_of_some hopens, piecesOutside_closed hcloses,
    piecesOutside_plain h.behind_plain.2]
  exact congrArg (fun kept => (List.intercalate [' '] kept, false)) hkept

end ClosedComment

/-- Comments are erased from the first line, then from the others as the first has left off. -/
theorem eraseComments_append_newline {line : List Char} (h : '\n' ∉ line) (rest : List Char) :
    eraseComments (line ++ '\n' :: rest) =
      (eraseBlocks false (cutLineComment line)).1 ++ '\n' ::
        List.intercalate ['\n']
          (eraseLines (eraseBlocks false (cutLineComment line)).2 (lines rest)) := by
  have hlines : lines (line ++ '\n' :: rest) = line :: lines rest :=
    List.splitOn_append_cons_self_of_not_mem h rest
  rw [eraseComments, cleanLines, hlines, eraseLines,
    List.intercalate_cons_of_ne_nil (eraseLines_lines_ne_nil _ rest), List.append_assoc]
  rfl

/--
A block comment that is opened and closed on one line hides its own text only, if the line
is about an address or the comment holds no slashes in a row.  Otherwise the end of the
comment is cut, and the block stays open behind the line.
-/
theorem eraseComments_closed {before comment behind : List Char}
    (h : ClosedComment before comment behind) (rest : List Char) :
    eraseComments (commentedLine before comment behind ++ '\n' :: rest) =
      if IsAddress before ∨ ¬ ['/', '/'] <:+: comment then
        joinPieces [before, behind] ++ '\n' :: eraseComments rest
      else trim before ++ '\n' :: List.intercalate ['\n'] (eraseLines true (lines rest)) := by
  rw [eraseComments_append_newline h.newline_notMem]
  split
  · rename_i hkeeps
    rw [h.cutLineComment_eq_self hkeeps, h.eraseBlocks_eq]
    rfl
  · rename_i hcuts
    rw [not_or, not_not] at hcuts
    rcases h.cutLineComment_of_slashes hcuts.1 hcuts.2 with ⟨opened, hopened, hcut⟩
    rw [hcut, eraseBlocks_of_some (breakAt_pair_of_not_isInfix (by decide) h.before_plain.2 opened),
      piecesOutside_open hopened, joinPieces_singleton]

/-- Within a comment on a line about an address, slashes and another opening are hidden. -/
theorem eraseComments_closed_address :
    ClosedComment "url docs ".toList " see http://x /* ".toList " [a]".toList ∧
      eraseComments (commentedLine "url docs ".toList " see http://x /* ".toList " [a]".toList
          ++ '\n' :: "note".toList) = "url docs [a]\nnote".toList := by
  have hclosed : ClosedComment "url docs ".toList " see http://x /* ".toList " [a]".toList :=
    ⟨by decide, by decide, by decide, by decide, by decide⟩
  refine ⟨hclosed, ?_⟩
  rw [eraseComments_closed hclosed, if_pos (by decide)]
  decide +kernel

/-- Slashes in a comment hide the end of the comment and, with it, the rest of the text. -/
theorem slashes_hide_closing :
    ClosedComment "A ".toList " see http://x ".toList " B".toList ∧
      eraseComments (commentedLine "A ".toList " see http://x ".toList " B".toList
          ++ '\n' :: "C".toList) = "A\n".toList ∧
      joinPieces ["A ".toList, " B".toList] ++ '\n' :: eraseComments "C".toList =
        "A B\nC".toList :=
  ⟨⟨by decide, by decide, by decide, by decide, by decide⟩, by decide +kernel, by decide +kernel⟩

/-! ## Erasing twice -/

/-- Slashes on a line that is not about an address. -/
def HasStraySlashes (line : List Char) : Prop := ¬ IsAddress line ∧ ['/', '/'] <:+: line

instance (line : List Char) : Decidable (HasStraySlashes line) :=
  inferInstanceAs (Decidable (_ ∧ _))

theorem cutLineComment_eq_self_iff {line : List Char} :
    cutLineComment line = line ↔ ¬ HasStraySlashes line := by
  rw [cutLineComment_eq, HasStraySlashes, not_and]
  split
  · rename_i haddress
    exact iff_of_true rfl fun hnot => absurd haddress hnot
  · rename_i hnot
    rw [before_eq_self_iff (List.cons_ne_nil _ _)]
    exact ⟨fun h _ => h, fun h => h hnot⟩

@[simp] theorem hasStraySlashes_trim (line : List Char) :
    HasStraySlashes (trim line) ↔ HasStraySlashes line := by
  have hslashes : occurs ['/', '/'] line = occurs ['/', '/'] (trim line) :=
    (padded_trim line).occurs_eq (by decide) (List.cons_ne_nil _ _)
  rw [HasStraySlashes, HasStraySlashes, isAddress_trim, ← occurs_iff_isInfix,
    ← occurs_iff_isInfix, hslashes]

/-- Outside a block, a line about an address stays one. -/
theorem IsAddress.eraseBlocks {line : List Char} (h : IsAddress line) :
    IsAddress (eraseBlocks false line).1 := by
  cases hbreak : breakAt ['/', '*'] line with
  | none =>
      rw [eraseBlocks_plain (breakAt_eq_none_iff.1 hbreak)]
      exact h
  | some parts =>
      rw [breakAt_append hbreak, List.append_assoc] at h
      have hkept : "url".toList <+: trim parts.1 := isAddress_append_slash.1 h
      have hne : trim parts.1 ≠ [] := by
        intro hnil
        rw [hnil] at hkept
        exact absurd hkept (by decide)
      have hpieces : joinPieces (parts.1 :: (piecesOutside true parts.2).1) =
          List.intercalate [' '] (trim parts.1 :: keptPieces (piecesOutside true parts.2).1) := by
        rw [joinPieces, List.map_cons, List.filter_cons_of_pos (by simpa using hne)]
        rfl
      rw [eraseBlocks_of_some hbreak, hpieces]
      exact isAddress_of_prefix (hkept.trans (prefix_intercalate _ _ _))

/-- A line that begins outside of blocks or is not about an address shows no stray slashes. -/
theorem HasStraySlashes.of_eraseBlocks {inside : Bool} {line : List Char}
    (h : HasStraySlashes (eraseBlocks inside (cutLineComment line)).1) :
    inside = true ∧ IsAddress line := by
  have haddress : IsAddress line := by
    by_contra hnot
    rw [cutLineComment_eq, if_neg hnot] at h
    exact not_isInfix_before (List.cons_ne_nil _ _) line
      (isInfix_eraseBlocks (List.cons_ne_nil _ _) (by decide) h.2)
  refine ⟨?_, haddress⟩
  rw [cutLineComment_eq, if_pos haddress] at h
  cases inside with
  | true => rfl
  | false => exact absurd haddress.eraseBlocks h.1

/-- Erasing blocks leaves stray slashes in a text as in its pieces. -/
theorem hasStraySlashes_joinPieces (line : List Char) :
    HasStraySlashes (joinPieces (piecesOutside false line).1) ↔
      HasStraySlashes (eraseBlocks false line).1 := by
  by_cases hopens : ['/', '*'] <:+: line
  · rw [eraseBlocks_of_isInfix hopens]
  · rw [piecesOutside_plain hopens, joinPieces_plain, eraseBlocks_plain hopens,
      hasStraySlashes_trim]

/--
A line is left with stray slashes when it is about an address, a block is open before it, and
what stands behind the end of the block has stray slashes of its own.
-/
theorem hasStraySlashes_eraseBlocks_iff {inside : Bool} {line : List Char} :
    HasStraySlashes (eraseBlocks inside (cutLineComment line)).1 ↔
      inside = true ∧ IsAddress line ∧ ∃ hidden shown,
        breakAt ['*', '/'] line = some (hidden, shown) ∧
          HasStraySlashes (eraseBlocks false shown).1 := by
  have hinside (haddress : IsAddress line) :
      eraseBlocks true (cutLineComment line) =
        (joinPieces (piecesOutside true line).1, (piecesOutside true line).2) := by
    rw [cutLineComment_eq, if_pos haddress]
    rfl
  constructor
  · intro h
    rcases h.of_eraseBlocks with ⟨rfl, haddress⟩
    refine ⟨rfl, haddress, ?_⟩
    rw [hinside haddress] at h
    cases hbreak : breakAt ['*', '/'] line with
    | none =>
        rw [piecesOutside_open (breakAt_eq_none_iff.1 hbreak)] at h
        exact absurd (List.infix_nil.1 h.2) (List.cons_ne_nil _ _)
    | some parts =>
        rw [piecesOutside_closed hbreak, hasStraySlashes_joinPieces] at h
        exact ⟨parts.1, parts.2, rfl, h⟩
  · rintro ⟨rfl, haddress, hidden, shown, hbreak, hshown⟩
    rwa [hinside haddress, piecesOutside_closed hbreak, hasStraySlashes_joinPieces]

/-- Whether a block comment is open behind lines. -/
def endsInside (inside : Bool) : List (List Char) → Bool
  | [] => inside
  | line :: rest => endsInside (eraseBlocks inside (cutLineComment line)).2 rest

/-- A line is erased from the state in which the lines before it end. -/
theorem getElem?_eraseLines (inside : Bool) (lines : List (List Char)) (index : Nat) :
    (eraseLines inside lines)[index]? = lines[index]?.map fun line =>
      (eraseBlocks (endsInside inside (lines.take index)) (cutLineComment line)).1 := by
  induction lines generalizing inside index with
  | nil => rfl
  | cons line rest ih =>
      cases index with
      | zero => rfl
      | succ index => exact ih _ index

/-- A second erasing cuts line comments only. -/
theorem cleanLines_eraseComments (text : List Char) :
    cleanLines (eraseComments text) = (cleanLines text).map cutLineComment := by
  rw [cleanLines, lines_eraseComments]
  exact eraseLines_of_not_isInfix fun _ => not_isInfix_of_mem_cleanLines

/--
A second erasing changes nothing exactly when no line is left with stray slashes.  These are
the lines about addresses that begin within a block and show stray slashes behind its end.
-/
theorem eraseComments_twice (text : List Char) :
    (eraseComments (eraseComments text) = eraseComments text ↔
      ∀ line ∈ lines (eraseComments text), ¬ HasStraySlashes line) ∧
    ∀ index, (∃ line ∈ (lines (eraseComments text))[index]?, HasStraySlashes line) ↔
      endsInside false ((lines text).take index) = true ∧
        ∃ line ∈ (lines text)[index]?, IsAddress line ∧ ∃ hidden shown,
          breakAt ['*', '/'] line = some (hidden, shown) ∧
            HasStraySlashes (eraseBlocks false shown).1 := by
  rw [lines_eraseComments]
  constructor
  · have hlines : eraseComments (eraseComments text) = eraseComments text ↔
        (cleanLines text).map cutLineComment = (cleanLines text).map id := by
      rw [← cleanLines_eraseComments, List.map_id]
      constructor
      · intro h
        rw [← lines_eraseComments, h, lines_eraseComments]
      · intro h
        rw [eraseComments, h, eraseComments]
    rw [hlines, List.map_inj_left]
    exact forall₂_congr fun line _ => cutLineComment_eq_self_iff
  · intro index
    rw [cleanLines, getElem?_eraseLines]
    cases (lines text)[index]? with
    | none => simp
    | some line => simp [hasStraySlashes_eraseBlocks_iff]

/-- A line whose `url` is hidden in a block shows a line comment, which a second erasing cuts. -/
theorem hidden_url_shows_comment :
    let text := "/*\nurl */ A // B".toList
    eraseComments text = "\nA // B".toList ∧
      (∃ line ∈ lines (eraseComments text), ¬ IsAddress line ∧ ['/', '/'] <:+: line) ∧
      eraseComments (eraseComments text) = "\nA ".toList := by
  decide +kernel

end Notation
end Wardley
