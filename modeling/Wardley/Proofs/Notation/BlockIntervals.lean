import Mathlib.Data.List.Sort
import Wardley.Proofs.Construct.BlockText
import Wardley.Proofs.Text.Patterns

/-!
# Blocks are intervals of lines

The blocks of lines can be told without any search.  A header has one exactly if a brace
stands on its line or begins the next line that is not blank; the block then ends with the
first closing brace behind the opening one, or with the lines, and all headers within it
are passed over.  These conditions hold of one list of blocks only.

Main definitions:

- `IsNextWritten`, `OpensAt`, `ClosesAt`: the next line that is not blank, and where the block
  of a header opens and closes.
- `AreBlocks`: blocks that are delimited so and leave no header out.

Main results:

- `areBlocks_blocksFrom`, `AreBlocks.unique`: the search finds the only such blocks.
- `ownedPositions_eq`: the lines of blocks, interval by interval.
- `blocks_are_intervals`: both for all lines.
-/

namespace Wardley
namespace Notation

open Text

/-! ## First places in a list -/

section TakeWhile

variable {α : Type} {keep : α → Bool} {items : List α}

/-- Items before the first failure pass the test. -/
theorem of_lt_length_takeWhile {index : Nat} (h : index < (items.takeWhile keep).length) :
    ∀ item ∈ items[index]?, keep item = true := by
  intro item hitem
  have hsame := List.prefix_iff_getElem?.1 (List.takeWhile_prefix keep (l := items)) index h
  rw [hsame, Option.mem_some_iff] at hitem
  exact List.mem_takeWhile_imp (hitem ▸ List.getElem_mem h)

/-- Dropping the passing items leaves the first failure and what follows. -/
theorem drop_length_takeWhile (keep : α → Bool) (items : List α) :
    items.drop (items.takeWhile keep).length = items.dropWhile keep := by
  have hdrop : (items.takeWhile keep ++ items.dropWhile keep).drop (items.takeWhile keep).length =
      items.dropWhile keep := List.drop_left
  rwa [List.takeWhile_append_dropWhile] at hdrop

/-- The item behind the passing ones fails the test. -/
theorem not_of_length_takeWhile :
    ∀ item ∈ items[(items.takeWhile keep).length]?, keep item = false := by
  intro item hitem
  have hstop := List.head?_dropWhile_not keep items
  rw [← drop_length_takeWhile, List.head?_drop, Option.mem_def.1 hitem] at hstop
  simpa using hstop

end TakeWhile

/-! ## Where a block opens -/

/-- A header stands at a position. -/
def IsHeaderAt (lines : List (List Char)) (position : Nat) : Prop :=
  ∃ line ∈ lines[position]?, isHeader line = true

/-- A line that is not blank stands at a position, and only blank ones between. -/
structure IsNextWritten (lines : List (List Char)) (position next : Nat) : Prop where
  lt : position < next
  blank : ∀ between, position < between → between < next →
    ∀ line ∈ lines[between]?, isAllBlank line = true
  written : ∃ line ∈ lines[next]?, isAllBlank line = false

/-- The block of a header opens on the line at a position. -/
inductive OpensAt (lines : List (List Char)) (header : Nat) : Nat → Prop where
  /-- A brace stands on the header line. -/
  | here {line : List Char} (hline : lines[header]? = some line) (hbrace : '{' ∈ line) :
    OpensAt lines header header
  /-- No brace stands there, but one begins the next line that is not blank. -/
  | below {line next : List Char} {opening : Nat} (hline : lines[header]? = some line)
    (hbrace : '{' ∉ line) (hnext : IsNextWritten lines header opening)
    (hopening : lines[opening]? = some next) (hbegins : ['{'] <+: trim next) :
    OpensAt lines header opening

/-- Behind a position, at most one line is the next that is not blank. -/
theorem IsNextWritten.unique {lines : List (List Char)} {position next other : Nat}
    (h : IsNextWritten lines position next) (hother : IsNextWritten lines position other) :
    next = other := by
  -- the nearer one would be blank for the other
  have hle {near far : Nat} (hnear : IsNextWritten lines position near)
      (hfar : IsNextWritten lines position far) : far ≤ near := by
    by_contra hlt
    rcases hnear.written with ⟨line, hline, hwritten⟩
    rw [hfar.blank near hnear.lt (Nat.lt_of_not_le hlt) line hline] at hwritten
    contradiction
  exact Nat.le_antisymm (hle hother h) (hle h hother)

/-- The block of a header opens at one place. -/
theorem OpensAt.unique {lines : List (List Char)} {header opening other : Nat}
    (h : OpensAt lines header opening) (hother : OpensAt lines header other) :
    opening = other := by
  cases h with
  | here hline hbrace =>
      cases hother with
      | here => rfl
      | below hline' hbrace' =>
          rw [hline, Option.some.injEq] at hline'
          exact absurd (hline' ▸ hbrace) hbrace'
  | below hline hbrace hnext =>
      cases hother with
      | here hline' hbrace' =>
          rw [hline, Option.some.injEq] at hline'
          exact absurd (hline' ▸ hbrace') hbrace
      | below _ _ hnext' => exact hnext.unique hnext'

/-- A block does not open before its header. -/
theorem OpensAt.le {lines : List (List Char)} {header opening : Nat}
    (h : OpensAt lines header opening) : header ≤ opening := by
  cases h with
  | here => exact Nat.le_refl _
  | below _ _ hnext => exact Nat.le_of_lt hnext.lt

/-- A block opens on one of the lines. -/
theorem OpensAt.lt_length {lines : List (List Char)} {header opening : Nat}
    (h : OpensAt lines header opening) : opening < lines.length := by
  cases h with
  | here hline => exact (List.getElem?_eq_some_iff.1 hline).1
  | below _ _ _ hopening => exact (List.getElem?_eq_some_iff.1 hopening).1

/-! ## Where a block closes -/

/-- The line at a position has a closing brace, on the opening line behind its first brace. -/
def HasClosing (lines : List (List Char)) (opening position : Nat) : Prop :=
  ∃ line ∈ lines[position]?, '}' ∈ if position = opening then afterBrace line else line

/-- A block closes at its first closing brace or, without one, at the end of the lines. -/
structure ClosesAt (lines : List (List Char)) (opening closing : Nat) : Prop where
  opening_le : opening ≤ closing
  open_before : ∀ position, opening ≤ position → position < closing →
    ¬ HasClosing lines opening position
  closing : HasClosing lines opening closing ∨ closing = lines.length

/-- A closing brace stands on one of the lines. -/
theorem HasClosing.lt_length {lines : List (List Char)} {opening position : Nat}
    (h : HasClosing lines opening position) : position < lines.length := by
  rcases h with ⟨line, hline, -⟩
  exact (List.getElem?_eq_some_iff.1 hline).1

/-- A block closes on one of the lines, or behind them all. -/
theorem ClosesAt.le_length {lines : List (List Char)} {opening closing : Nat}
    (h : ClosesAt lines opening closing) : closing ≤ lines.length := by
  rcases h.closing with hclosing | rfl
  · exact Nat.le_of_lt hclosing.lt_length
  · exact Nat.le_refl _

/-- A block closes at one place. -/
theorem ClosesAt.unique {lines : List (List Char)} {opening closing other : Nat}
    (h : ClosesAt lines opening closing) (hother : ClosesAt lines opening other) :
    closing = other := by
  have hle {near far : Nat} (hnear : ClosesAt lines opening near)
      (hfar : ClosesAt lines opening far) : far ≤ near := by
    rcases hnear.closing with hclosing | rfl
    · by_contra hlt
      exact hfar.open_before near hnear.opening_le (Nat.lt_of_not_le hlt) hclosing
    · exact hfar.le_length
  exact Nat.le_antisymm (hle hother h) (hle h hother)

/-! ## Blocks without a search -/

/-- A block lies between a header, its opening line and its closing line. -/
structure Block.Delimits (lines : List (List Char)) (block : Block) : Prop where
  header : IsHeaderAt lines block.header
  opening : OpensAt lines block.header block.opening
  closing : ClosesAt lines block.opening block.closing

/-- A position lies between the header and the closing line of a block, both included. -/
def Block.Spans (block : Block) (position : Nat) : Prop :=
  block.header ≤ position ∧ position ≤ block.closing

/-- The blocks of lines from a first position on. -/
structure AreBlocks (lines : List (List Char)) (first : Nat) (found : List Block) : Prop where
  first_le : ∀ block ∈ found, first ≤ block.header
  delimits : ∀ block ∈ found, block.Delimits lines
  /-- A block closes before the header of the next one. -/
  pairwise : found.Pairwise fun block next => block.closing < next.header
  /-- No block opens behind a header outside of them. -/
  complete : ∀ header, first ≤ header → IsHeaderAt lines header →
    (∀ block ∈ found, ¬ block.Spans header) → ∀ opening, ¬ OpensAt lines header opening

namespace Block.Delimits

variable {lines : List (List Char)} {block other : Block}

/-- A block does not close before its header. -/
theorem header_le (h : block.Delimits lines) : block.header ≤ block.closing :=
  Nat.le_trans h.opening.le h.closing.opening_le

/-- A block is determined by its header. -/
theorem eq_of_header (h : block.Delimits lines) (hother : other.Delimits lines)
    (hheader : block.header = other.header) : block = other := by
  have hopening : block.opening = other.opening := h.opening.unique (hheader ▸ hother.opening)
  have hclosing : block.closing = other.closing := h.closing.unique (hopening ▸ hother.closing)
  cases block
  cases other
  simp_all

end Block.Delimits

namespace AreBlocks

variable {lines : List (List Char)} {first : Nat} {block : Block} {found other : List Block}

/-- A header behind which no block opens may stand before the blocks, or any other line. -/
theorem skip (h : AreBlocks lines (first + 1) found)
    (hskip : IsHeaderAt lines first → ∀ opening, ¬ OpensAt lines first opening) :
    AreBlocks lines first found where
  first_le other hother := Nat.le_of_succ_le (h.first_le other hother)
  delimits := h.delimits
  pairwise := h.pairwise
  complete header hle hheader houtside := by
    rcases Nat.eq_or_lt_of_le hle with rfl | hlt
    · exact hskip hheader
    · exact h.complete header hlt hheader houtside

/-- A block and those behind its closing line. -/
theorem cons (hblock : block.Delimits lines) (h : AreBlocks lines (block.closing + 1) found) :
    AreBlocks lines block.header (block :: found) where
  first_le := List.forall_mem_cons.2 ⟨Nat.le_refl _, fun other hother =>
    Nat.le_trans hblock.header_le (Nat.le_of_succ_le (h.first_le other hother))⟩
  delimits := List.forall_mem_cons.2 ⟨hblock, h.delimits⟩
  pairwise := List.pairwise_cons.2 ⟨h.first_le, h.pairwise⟩
  complete header hle hheader houtside := by
    rcases List.forall_mem_cons.1 houtside with ⟨hhere, hlater⟩
    exact h.complete header (Nat.lt_of_not_le fun hclosing => hhere ⟨hle, hclosing⟩) hheader hlater

/-- The blocks behind the first one start behind it. -/
theorem tail (h : AreBlocks lines first (block :: found)) :
    AreBlocks lines (block.closing + 1) found where
  first_le := (List.pairwise_cons.1 h.pairwise).1
  delimits := fun other hother => h.delimits other (List.mem_cons_of_mem _ hother)
  pairwise := (List.pairwise_cons.1 h.pairwise).2
  complete header hle hheader houtside := by
    have hblock := (h.delimits block List.mem_cons_self).header_le
    have hfirst : first ≤ header :=
      Nat.le_trans (h.first_le block List.mem_cons_self)
        (Nat.le_trans hblock (Nat.le_of_succ_le hle))
    refine h.complete header hfirst hheader (List.forall_mem_cons.2 ⟨?_, houtside⟩)
    exact fun hspans => Nat.not_le_of_lt hle hspans.2

/-- A header outside of the blocks has no brace, and none begins the next written line. -/
theorem outside (h : AreBlocks lines first found) {header : Nat} (hle : first ≤ header)
    {line : List Char} (hline : lines[header]? = some line) (hheader : isHeader line = true)
    (houtside : ∀ block ∈ found, ¬ block.Spans header) :
    '{' ∉ line ∧ ∀ next text, IsNextWritten lines header next → lines[next]? = some text →
      ¬ ['{'] <+: trim text := by
  have hnone := h.complete header hle ⟨line, hline, hheader⟩ houtside
  have hbrace : '{' ∉ line := fun hmem => hnone header (.here hline hmem)
  exact ⟨hbrace, fun next text hnext htext hbegins =>
    hnone next (.below hline hbrace hnext htext hbegins)⟩

/-- A header behind which a block opens lies in one of the blocks, none of which begins later
than the first of them. -/
theorem exists_spans (h : AreBlocks lines first found) (hblock : block.Delimits lines)
    (hfirst : first ≤ block.header) : ∃ other ∈ found, other.Spans block.header := by
  by_contra hnone
  push Not at hnone
  exact h.complete block.header hfirst hblock.header hnone block.opening hblock.opening

/-- The first block begins no later than any other header behind which a block opens. -/
theorem header_le (h : AreBlocks lines first (block :: found)) {late : Block}
    (hlate : late.Delimits lines) (hfirst : first ≤ late.header) :
    block.header ≤ late.header := by
  rcases h.exists_spans hlate hfirst with ⟨other, hother, hspans⟩
  rcases List.mem_cons.1 hother with rfl | hlater
  · exact hspans.1
  · have hbehind := h.tail.first_le other hlater
    have hblock := (h.delimits block List.mem_cons_self).header_le
    have := hspans.1
    omega

/-- Lines have only one list of blocks. -/
theorem unique (h : AreBlocks lines first found) (hother : AreBlocks lines first other) :
    found = other := by
  induction found generalizing first other with
  | nil =>
      cases other with
      | nil => rfl
      | cons block later =>
          rcases h.exists_spans (hother.delimits block List.mem_cons_self)
            (hother.first_le block List.mem_cons_self) with ⟨none, hnone, -⟩
          cases hnone
  | cons block later ih =>
      have hblock := h.delimits block List.mem_cons_self
      have hfirst := h.first_le block List.mem_cons_self
      cases other with
      | nil =>
          rcases hother.exists_spans hblock hfirst with ⟨none, hnone, -⟩
          cases hnone
      | cons block' later' =>
          have hblock' := hother.delimits block' List.mem_cons_self
          have hfirst' := hother.first_le block' List.mem_cons_self
          have hsame : block = block' := hblock.eq_of_header hblock'
            (Nat.le_antisymm (h.header_le hblock' hfirst') (hother.header_le hblock hfirst))
          subst hsame
          rw [ih h.tail hother.tail]

end AreBlocks

/-! ## The search finds the blocks -/

section Search

variable {lines : List (List Char)} {position : Nat} {line : List Char} {rest : List (List Char)}

/-- The first line that is left is the line at the position. -/
theorem getElem?_of_drop (h : lines.drop position = line :: rest) :
    lines[position]? = some line := by
  rw [← List.head?_drop, h, List.head?_cons]

/-- The lines behind the first one that is left. -/
theorem drop_succ_of_drop (h : lines.drop position = line :: rest) :
    lines.drop (position + 1) = rest := by
  rw [← List.tail_drop, h, List.tail_cons]

/-- Lines further on, counted from the first one that is left. -/
theorem drop_add_of_drop (h : lines.drop position = line :: rest) (count : Nat) :
    lines.drop (position + count + 1) = rest.drop count := by
  rw [← drop_succ_of_drop h, List.drop_drop, Nat.add_right_comm]

/-- The line further on, counted from the position. -/
theorem getElem?_add_of_drop (h : lines.drop position = rest) (index : Nat) :
    lines[position + index]? = rest[index]? := by
  rw [← h, List.getElem?_drop]

/-- Behind a position, the line at the first place that is not blank is the next written one. -/
theorem isNextWritten_of_drop (h : lines.drop (position + 1) = rest)
    {next : List Char} {others : List (List Char)}
    (hnext : rest.drop (leadingBlank rest) = next :: others) :
    IsNextWritten lines position (position + 1 + leadingBlank rest) where
  lt := by omega
  blank between hlt hbefore := by
    have hindex : between = position + 1 + (between - (position + 1)) := by omega
    rw [hindex, getElem?_add_of_drop h]
    exact of_lt_length_takeWhile (by rw [leadingBlank] at hbefore; omega)
  written := by
    have hline := getElem?_of_drop hnext
    rw [getElem?_add_of_drop h]
    exact ⟨next, hline, not_of_length_takeWhile next hline⟩

/-- Behind a position, no line is written if all of them are blank. -/
theorem not_isNextWritten_of_drop (h : lines.drop (position + 1) = rest)
    (hblank : rest.drop (leadingBlank rest) = []) (next : Nat) :
    ¬ IsNextWritten lines position next := by
  rintro ⟨hlt, -, line, hline, hwritten⟩
  have hindex : next = position + 1 + (next - (position + 1)) := by omega
  rw [hindex, getElem?_add_of_drop h] at hline
  have hshort := List.drop_eq_nil_iff.1 hblank
  have hinside := (List.getElem?_eq_some_iff.1 hline).1
  have hleading : isAllBlank line = true :=
    of_lt_length_takeWhile (Nat.lt_of_lt_of_le hinside hshort) line hline
  rw [hleading] at hwritten
  contradiction

/-- No block opens behind a line without a brace that no line with a brace in front follows. -/
theorem not_opensAt_of_drop (h : lines.drop position = line :: rest) (hbrace : '{' ∉ line)
    (hbelow : ∀ next others, rest.drop (leadingBlank rest) = next :: others →
      ¬ ['{'] <+: trim next) (opening : Nat) : ¬ OpensAt lines position opening := by
  have hrest := drop_succ_of_drop h
  intro hopens
  cases hopens with
  | here hline hbrace' =>
      rw [getElem?_of_drop h, Option.some.injEq] at hline
      exact hbrace (hline ▸ hbrace')
  | @below _ text _ _ _ hnext hopening hbegins =>
      cases hwritten : rest.drop (leadingBlank rest) with
      | nil => exact not_isNextWritten_of_drop hrest hwritten _ hnext
      | cons next others =>
          obtain rfl := (isNextWritten_of_drop hrest hwritten).unique hnext
          rw [getElem?_add_of_drop hrest, getElem?_of_drop hwritten, Option.some.injEq]
            at hopening
          exact hbelow next others hwritten (hopening ▸ hbegins)

/-- The closing brace, looked for behind the opening one. -/
theorem hasClosing_iff (h : lines.drop position = line :: rest) (index : Nat) :
    HasClosing lines position (position + index) ↔
      ∃ text ∈ (afterBrace line :: rest)[index]?, '}' ∈ text := by
  rw [HasClosing, getElem?_add_of_drop h]
  cases index with
  | zero => simp
  | succ index => simp

/-- A block closes as far behind its opening line as the distance says. -/
theorem closesAt_of_drop (h : lines.drop position = line :: rest) :
    ClosesAt lines position (position + closingDistance line rest) where
  opening_le := Nat.le_add_right _ _
  open_before closing hle hlt := by
    have hindex : closing = position + (closing - position) := by omega
    rw [hindex, hasClosing_iff h]
    rintro ⟨text, htext, hclose⟩
    have hbefore : closing - position < countUnclosed (afterBrace line :: rest) := by
      rw [← closingDistance_eq]
      omega
    have hopen := of_lt_length_takeWhile hbefore text htext
    simp [hclose] at hopen
  closing := by
    rw [hasClosing_iff h, closingDistance_eq]
    have hlength := congrArg List.length h
    rw [List.length_drop, List.length_cons] at hlength
    cases hline : (afterBrace line :: rest)[countUnclosed (afterBrace line :: rest)]? with
    | some text =>
        have hclose := not_of_length_takeWhile text hline
        exact .inl ⟨text, rfl, by simpa using hclose⟩
    | none =>
        -- no line closes the block, so that all of them are counted
        have hall := List.getElem?_eq_none_iff.1 hline
        have hcount := (List.takeWhile_prefix (l := afterBrace line :: rest)
          fun text => !text.contains '}').length_le
        rw [List.length_cons] at hall
        rw [← countUnclosed, List.length_cons] at hcount
        exact .inr (by omega)

end Search

/-- The search finds the blocks of lines from a position on. -/
theorem areBlocks_blocksFrom {lines rest : List (List Char)} {position : Nat}
    (hrest : lines.drop position = rest) :
    AreBlocks lines position (blocksFrom position rest) := by
  fun_induction blocksFrom position rest with
  | case1 position =>
      refine ⟨by simp, by simp, .nil, ?_⟩
      rintro header hle ⟨line, hline, -⟩
      have hshort := List.drop_eq_nil_iff.1 hrest
      have hinside := (List.getElem?_eq_some_iff.1 hline).1
      omega
  | case2 position line rest hheader ih =>
      refine (ih (drop_succ_of_drop hrest)).skip ?_
      rintro ⟨other, hother, hheader'⟩
      rw [getElem?_of_drop hrest, Option.mem_some_iff] at hother
      simp [hother, hheader'] at hheader
  | case3 position line rest hheader hbrace distance ih =>
      have hline := getElem?_of_drop hrest
      have hblock : Block.Delimits lines ⟨position, position, position + distance⟩ :=
        ⟨⟨line, hline, by simpa using hheader⟩, .here hline (List.contains_iff_mem.1 hbrace),
          closesAt_of_drop hrest⟩
      exact .cons hblock (ih (drop_add_of_drop hrest distance))
  | case4 position line rest hheader hbrace hblank ih =>
      refine (ih (drop_succ_of_drop hrest)).skip fun _ => ?_
      refine not_opensAt_of_drop hrest (mt List.contains_iff_mem.2 hbrace) ?_
      intro next others hnext
      rw [hblank] at hnext
      contradiction
  | case5 position line rest hheader hbrace next others hnext hopens opening distance ih =>
      have hline := getElem?_of_drop hrest
      have hbehind := drop_succ_of_drop hrest
      have hopening : (lines.drop (position + 1)).drop (leadingBlank rest) = next :: others := by
        rw [hbehind, hnext]
      rw [List.drop_drop] at hopening
      have hbegins : ['{'] <+: trim next := startsWith_iff_prefix.1 hopens
      have hblock : Block.Delimits lines ⟨position, opening, opening + distance⟩ :=
        ⟨⟨line, hline, by simpa using hheader⟩,
          .below hline (mt List.contains_iff_mem.2 hbrace) (isNextWritten_of_drop hbehind hnext)
            (getElem?_of_drop hopening) hbegins,
          closesAt_of_drop hopening⟩
      exact .cons hblock (ih (drop_add_of_drop hopening distance))
  | case6 position line rest hheader hbrace next others hnext hopens ih =>
      refine (ih (drop_succ_of_drop hrest)).skip fun _ => ?_
      refine not_opensAt_of_drop hrest (mt List.contains_iff_mem.2 hbrace) ?_
      intro next' others' hnext'
      rw [hnext, List.cons.injEq] at hnext'
      rw [← hnext'.1, ← startsWith_iff_prefix]
      exact hopens

/-! ## Lines of blocks -/

/-- The positions that a block owns in a number of lines. -/
def Block.positions (count : Nat) (block : Block) : List Nat :=
  List.range' block.opening (min block.closing (count - 1) + 1 - block.opening)

/-- The positions of a block run from its opening to its closing, within the text. -/
theorem Block.mem_positions {count position : Nat} {block : Block} :
    position ∈ block.positions count ↔
      block.opening ≤ position ∧ position ≤ min block.closing (count - 1) := by
  rw [Block.positions, List.mem_range'_1]
  omega

/-- The positions of blocks follow each other. -/
theorem AreBlocks.pairwise_positions {lines : List (List Char)} {first : Nat}
    {found : List Block} (h : AreBlocks lines first found) (count : Nat) :
    (found.flatMap (Block.positions count)).Pairwise (· < ·) := by
  rw [List.pairwise_flatMap]
  refine ⟨fun block _ => List.pairwise_lt_range', ?_⟩
  refine h.pairwise.imp_of_mem ?_
  intro block next _ hnext hclosing position hposition later hlater
  have hopening := (h.delimits next hnext).opening.le
  rw [Block.mem_positions] at hposition hlater
  omega

/-- The lines of blocks, interval by interval. -/
theorem ownedPositions_eq (lines : List (List Char)) :
    ownedPositions lines = (blocks lines).flatMap (Block.positions lines.length) := by
  have hblocks : AreBlocks lines 0 (blocks lines) := areBlocks_blocksFrom List.drop_zero
  have hsorted : (ownedPositions lines).Pairwise (· < ·) :=
    List.pairwise_lt_range.sublist List.filter_sublist
  refine hsorted.eq_of_mem_iff (hblocks.pairwise_positions _) fun position => ?_
  rw [ownedPositions, List.mem_filter, List.mem_range, isOwned, List.any_eq_true, List.mem_flatMap]
  constructor
  · rintro ⟨hinside, block, hblock, howns⟩
    have howns := Block.owns_iff.1 howns
    exact ⟨block, hblock, Block.mem_positions.2 (by omega)⟩
  · rintro ⟨block, hblock, hposition⟩
    have hopening := (hblocks.delimits block hblock).opening.lt_length
    have hposition := Block.mem_positions.1 hposition
    exact ⟨by omega, block, hblock, Block.owns_iff.2 (by omega)⟩

/-! ## All lines -/

/-- The blocks of lines are intervals, and so are the lines that belong to them. -/
structure BlocksAreIntervals (lines : List (List Char)) : Prop where
  areBlocks : AreBlocks lines 0 (blocks lines)
  /-- No other blocks are delimited so without leaving a header out. -/
  unique : ∀ found, AreBlocks lines 0 found → found = blocks lines
  /-- A block opens within the lines and closes within them or at their end. -/
  bounds : ∀ block ∈ blocks lines, block.header ≤ block.opening ∧
    block.opening ≤ block.closing ∧ block.closing ≤ lines.length
  /-- A header outside of the blocks has no brace, and none begins the next written line. -/
  outside : ∀ header line, lines[header]? = some line → isHeader line = true →
    (∀ block ∈ blocks lines, ¬ block.Spans header) →
      '{' ∉ line ∧ ∀ next text, IsNextWritten lines header next → lines[next]? = some text →
        ¬ ['{'] <+: trim text
  owned_eq : ownedPositions lines = (blocks lines).flatMap (Block.positions lines.length)
  /-- The intervals follow each other without overlap. -/
  owned_pairwise : (ownedPositions lines).Pairwise (· < ·)
  owned_lt : ∀ position ∈ ownedPositions lines, position < lines.length

/-- The search finds just the blocks that lines have. -/
theorem blocks_are_intervals (lines : List (List Char)) : BlocksAreIntervals lines where
  areBlocks := areBlocks_blocksFrom List.drop_zero
  unique found hfound := hfound.unique (areBlocks_blocksFrom List.drop_zero)
  bounds block hblock := by
    have hdelimits := (areBlocks_blocksFrom List.drop_zero).delimits block hblock
    exact ⟨hdelimits.opening.le, hdelimits.closing.opening_le, hdelimits.closing.le_length⟩
  outside _ _ hline hheader houtside :=
    (areBlocks_blocksFrom List.drop_zero).outside (Nat.zero_le _) hline hheader houtside
  owned_eq := ownedPositions_eq lines
  owned_pairwise := List.pairwise_lt_range.sublist List.filter_sublist
  owned_lt position hposition := List.mem_range.1 (List.mem_filter.1 hposition).1

end Notation
end Wardley
