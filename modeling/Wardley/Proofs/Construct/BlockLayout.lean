import Wardley.Proofs.Construct.BlockText
import Wardley.Proofs.Construct.PipelineConcatenation
import Wardley.Proofs.Notation.Groups

/-!
# Layouts of a block

The header of a pipeline and the bodies of its children can be laid out in many ways.  The
opening brace ends the header line or begins the next line that is not blank; the children
stand in their order on any of the lines behind it; blank lines may stand anywhere.  All
these layouts are one block with the same header and the same children.

Main definitions:

- `ShowsChildren`: a line on which children with given bodies stand.
- `HoldsChildren`: the lines of a block behind its opening brace.
- `OpensBlock`: the lines of a block up to its opening brace.
- `Layout`: the lines of a block.
- `readLaidOut`: what the header and the bodies of children give, wherever they stand.

Main results:

- `ShowsChildren.splitChildren_eq`: the children of a line are those that it shows.
- `blocks_layout`: the lines of a layout are one block.
- `Layout.pipelinesAmong_eq`: every layout gives what the header and the bodies give.
- `Layout.elementsOf_eq`: a layout declares no elements.
-/

namespace Wardley
namespace Construct

open Notation Text

/-! ## Children on a line -/

/-- A text that stands for one child behind the word that begins it. -/
structure IsChildBody (body : List Char) : Prop where
  childWord_free : childWord ∉ words body
  brace_free : '}' ∉ body

/-- A line on which children stand, one behind the other, each behind the word that begins it. -/
inductive ShowsChildren : List (List Char) → List Char → Prop where
  /-- No child stands on a blank line. -/
  | nil {gap : List Char} (hgap : ∀ c ∈ gap, isBlank c = true) : ShowsChildren [] gap
  /-- The word stands apart from the body, and the body from what follows it. -/
  | cons {bodies : List (List Char)} {gap space body rest : List Char}
    (hgap : ∀ c ∈ gap, isBlank c = true) (hspace : ∀ c ∈ space, isBlank c = true)
    (hword : ∀ c ∈ (space ++ (body ++ rest)).head?, isBlank c = true)
    (hbody : ∀ c ∈ rest.head?, isBlank c = true) (hrest : ShowsChildren bodies rest) :
    ShowsChildren (body :: bodies) (gap ++ (childWord ++ (space ++ (body ++ rest))))

/-- A text without the word goes to the piece in which it stands. -/
theorem splitAtChildren_body {body rest first : List Char} {others : List (List Char)}
    (hbody : childWord ∉ words body) (hrest : ∀ c ∈ rest.head?, isBlank c = true)
    (hsplit : splitAtChildren true rest = first :: others) :
    splitAtChildren true (body ++ rest) = (body ++ first) :: others := by
  -- word by word, as the pieces of a text share out its words
  match body with
  | [] => exact hsplit
  | c :: tail =>
      by_cases hc : isBlank c = true
      · rw [words_cons_blank hc] at hbody
        rw [List.cons_append, splitAtChildren_of_not_begins (beginsChild_blank hc _), hc,
          splitAtChildren_body hbody hrest hsplit]
        rfl
      · rcases exists_word (Bool.eq_false_iff.2 hc) tail with
          ⟨word, behind, htext, hne, hsolid, hbehind⟩
        have hshorter : behind.length < (c :: tail).length := by
          have := List.length_pos_iff.2 hne
          rw [htext, List.length_append]
          omega
        rw [htext, words_append_of_solid hne hsolid hbehind, List.mem_cons, not_or] at hbody
        have hhead : ∀ d ∈ (behind ++ rest).head?, isBlank d = true := by
          cases behind with
          | nil => exact hrest
          | cons d others => exact hbehind
        rw [htext, List.append_assoc, List.append_assoc]
        exact splitAtChildren_word hhead hne hsolid (Ne.symm hbody.1)
          (splitAtChildren_body hbody.2 hrest hsplit)
termination_by body.length
decreasing_by
  · exact Nat.lt_succ_self _
  · exact hshorter

namespace ShowsChildren

variable {bodies : List (List Char)} {text : List Char} (h : ShowsChildren bodies text)
include h

/-- A line is cut into the bodies that it shows, behind a blank piece. -/
theorem exists_pieces (hbodies : ∀ body ∈ bodies, IsChildBody body) :
    ∃ gap pieces, splitAtChildren true text = gap :: pieces ∧ (∀ c ∈ gap, isBlank c = true) ∧
      pieces.map trim = bodies.map trim := by
  induction h with
  | nil hgap => exact ⟨_, [], splitAtChildren_blank hgap true, hgap, rfl⟩
  | @cons bodies gap space body rest hgap hspace hword hbody hrest ih =>
      rcases List.forall_mem_cons.1 hbodies with ⟨hfirst, hothers⟩
      rcases ih hothers with ⟨behind, pieces, hsplit, hbehind, hpieces⟩
      have hpiece : splitAtChildren true (space ++ (body ++ rest)) =
          (space ++ (body ++ behind)) :: pieces :=
        splitAtChildren_blank_append hspace
          (splitAtChildren_body hfirst.childWord_free hbody hsplit)
      have hkeyword := splitAtChildren_childWord hword
      rw [hpiece] at hkeyword
      refine ⟨gap ++ [], (space ++ (body ++ behind)) :: pieces,
        splitAtChildren_blank_append hgap hkeyword, by simpa using hgap, ?_⟩
      have htrim : Padded body (space ++ (body ++ behind)) :=
        ⟨space, behind, by rw [List.append_assoc], hspace, hbehind⟩
      rw [List.map_cons, List.map_cons, htrim.trim_eq, hpieces]

/-- The children of a line are those that it shows. -/
theorem splitChildren_eq (hbodies : ∀ body ∈ bodies, IsChildBody body) :
    splitChildren text = bodies.map trim := by
  rcases h.exists_pieces hbodies with ⟨gap, pieces, hsplit, -, hpieces⟩
  rw [splitChildren, hsplit, List.tail_cons, hpieces]

/-- Children bring no closing brace to their line. -/
theorem brace_free (hbodies : ∀ body ∈ bodies, IsChildBody body) : '}' ∉ text := by
  have hsolid : isBlank '}' = false := by decide
  induction h with
  | nil hgap => exact not_mem_of_blank hsolid hgap
  | cons hgap hspace hword hbody hrest ih =>
      rcases List.forall_mem_cons.1 hbodies with ⟨hfirst, hothers⟩
      have hchild : '}' ∉ childWord := by decide
      simp only [List.mem_append, not_or]
      exact ⟨not_mem_of_blank hsolid hgap, hchild, not_mem_of_blank hsolid hspace,
        hfirst.brace_free, ih hothers⟩

/-- A line of children is no header, nor is one that a closing brace ends. -/
theorem isHeader_append {behind : List Char} (hbehind : ∀ c ∈ behind.head?, c = '}') :
    isHeader (text ++ behind) = false := by
  cases h with
  | nil hgap =>
      cases behind with
      | nil =>
          rw [List.append_nil]
          exact isHeader_of_isAllBlank (List.all_eq_true.2 hgap)
      | cons c rest =>
          obtain rfl : c = '}' := hbehind c rfl
          exact isHeader_of_head hgap (by decide) (by decide)
  | cons hgap =>
      rw [List.append_assoc]
      exact isHeader_of_head hgap (by decide : isBlank 'c' = false) (by decide)

end ShowsChildren

/-! ## Lines behind the opening brace -/

/-- The lines of a block behind its opening brace, and whether they close it. -/
inductive HoldsChildren : Bool → List (List Char) → List (List Char) → Prop where
  /-- The closing brace is left out. -/
  | leftOut : HoldsChildren false [] []
  /-- The closing brace ends the block. -/
  | closing {bodies : List (List Char)} {text : List Char} (hshows : ShowsChildren bodies text)
    (behind : List Char) : HoldsChildren true bodies [text ++ '}' :: behind]
  /-- Children stand on a line before others. -/
  | line {closed : Bool} {bodies later : List (List Char)} {text : List Char}
    {rest : List (List Char)} (hshows : ShowsChildren bodies text)
    (hlater : HoldsChildren closed later rest) :
    HoldsChildren closed (bodies ++ later) (text :: rest)

namespace HoldsChildren

variable {closed : Bool} {bodies lines : List (List Char)} (h : HoldsChildren closed bodies lines)
include h

/-- No line behind the opening brace is a header. -/
theorem isHeader_eq_false : ∀ line ∈ lines, isHeader line = false := by
  induction h with
  | leftOut => exact fun _ hline => absurd hline List.not_mem_nil
  | closing hshows behind =>
      intro line hline
      rcases List.mem_singleton.1 hline with rfl
      exact hshows.isHeader_append (by simp)
  | line hshows hlater ih =>
      refine List.forall_mem_cons.2 ⟨?_, ih⟩
      have hheader : isHeader (_ ++ []) = false := hshows.isHeader_append (by simp)
      rwa [List.append_nil] at hheader

variable (hbodies : ∀ body ∈ bodies, IsChildBody body)
include hbodies

/-- The block closes on the last of its lines or behind them. -/
theorem countUnclosed_eq : countUnclosed lines + closed.toNat = lines.length := by
  induction h with
  | leftOut => rfl
  | closing hshows behind => rw [countUnclosed_of_mem (by simp)]; rfl
  | line hshows hlater ih =>
      rcases List.forall_mem_append.1 hbodies with ⟨hhere, hbehind⟩
      rw [countUnclosed_of_not_mem (hshows.brace_free hhere), List.length_cons, ← ih hbehind]
      omega

/-- The children of a block are those that its lines show. -/
theorem flatMap_splitChildren_eq :
    lines.flatMap (fun line => splitChildren (line.takeWhile (· != '}'))) = bodies.map trim := by
  induction h with
  | leftOut => rfl
  | closing hshows behind =>
      rw [List.flatMap_singleton, takeWhile_ne_append (hshows.brace_free hbodies),
        hshows.splitChildren_eq hbodies]
  | line hshows hlater ih =>
      rcases List.forall_mem_append.1 hbodies with ⟨hhere, hbehind⟩
      rw [List.flatMap_cons, takeWhile_ne_of_not_mem (hshows.brace_free hhere),
        hshows.splitChildren_eq hhere, ih hbehind, List.map_append]

end HoldsChildren

/-! ## Lines up to the opening brace -/

/-- A line on which the word `pipeline` and a header stand, and something behind them. -/
inductive WritesHeader (header behind : List Char) : List Char → Prop where
  /-- The word stands apart from what follows it. -/
  | intro {lead gap space : List Char} (hlead : ∀ c ∈ lead, isBlank c = true)
    (hgap : ∀ c ∈ gap, isBlank c = true) (hspace : ∀ c ∈ space, isBlank c = true)
    (hword : ∀ c ∈ (gap ++ (header ++ (space ++ behind))).head?, isBlank c = true) :
    WritesHeader header behind
      (lead ++ ("pipeline".toList ++ (gap ++ (header ++ (space ++ behind)))))

/-- The lines before the one with the opening brace, that line, and what follows the brace. -/
inductive OpensBlock (header : List Char) :
    List (List Char) → List Char → List Char → Prop where
  /-- The opening brace ends the header on its line. -/
  | here {line text : List Char} (hheader : WritesHeader header ('{' :: text) line) :
    OpensBlock header [] line text
  /-- The opening brace begins the next line that is not blank. -/
  | below {line indent text : List Char} {blanks : List (List Char)}
    (hheader : WritesHeader header [] line) (hblanks : ∀ other ∈ blanks, isAllBlank other = true)
    (hindent : ∀ c ∈ indent, isBlank c = true) :
    OpensBlock header (line :: blanks) (indent ++ '{' :: text) text

theorem afterBrace_append_cons {front : List Char} (h : '{' ∉ front) (text : List Char) :
    afterBrace (front ++ '{' :: text) = text := by
  rw [afterBrace, dropWhile_ne_append h, List.drop_succ_cons, List.drop_zero]

theorem pipelineWord_solid : ∀ c ∈ "pipeline".toList, isBlank c = false := by
  intro c hc
  have hkeyword := (isKeyword_reservedKeywords "pipeline" (by decide)).2
  simpa [isSolid] using List.all_eq_true.1 hkeyword c hc

namespace WritesHeader

variable {header behind line : List Char} (h : WritesHeader header behind line)
include h

/-- The body of a header line is the header with what follows it. -/
theorem exists_body :
    ∃ gap space, (∀ c ∈ gap, isBlank c = true) ∧ (∀ c ∈ space, isBlank c = true) ∧
      keywordBody? "pipeline".toList line = some (trim (gap ++ (header ++ (space ++ behind)))) := by
  rcases h with ⟨hlead, hgap, hspace, hword⟩
  exact ⟨_, _, hgap, hspace, keywordBody?_append (by decide) pipelineWord_solid hlead hword⟩

theorem isHeader_eq_true : isHeader line = true := by
  rcases h.exists_body with ⟨gap, space, -, -, hbody⟩
  rw [isHeader, hbody, Option.isSome_some]

variable (hbrace : '{' ∉ header)
include hbrace

/-- The text before what follows a header has no opening brace. -/
theorem exists_front : ∃ front, line = front ++ behind ∧ '{' ∉ front := by
  have hsolid : isBlank '{' = false := by decide
  cases h with
  | @intro lead gap space hlead hgap hspace =>
      refine ⟨lead ++ ("pipeline".toList ++ (gap ++ (header ++ space))),
        by simp only [List.append_assoc], ?_⟩
      have hkeyword : '{' ∉ "pipeline".toList := by decide
      simp only [List.mem_append, not_or]
      exact ⟨not_mem_of_blank hsolid hlead, hkeyword, not_mem_of_blank hsolid hgap, hbrace,
        not_mem_of_blank hsolid hspace⟩

/-- A header is read from the text before its opening brace. -/
theorem takeDecorators_body {body : List Char}
    (hbody : keywordBody? "pipeline".toList line = some body)
    (hbehind : ∀ c ∈ behind.head?, c = '{') :
    takeDecorators (body.takeWhile (· != '{')) = takeDecorators header := by
  rcases h.exists_body with ⟨gap, space, hgap, hspace, hwritten⟩
  rw [hwritten, Option.some.injEq] at hbody
  subst hbody
  have hsolid : isBlank '{' = false := by decide
  have hfront : '{' ∉ gap ++ header ++ space := by
    simp only [List.mem_append, not_or]
    exact ⟨⟨not_mem_of_blank hsolid hgap, hbrace⟩, not_mem_of_blank hsolid hspace⟩
  have hcut : (gap ++ (header ++ (space ++ behind))).takeWhile (· != '{') =
      gap ++ header ++ space := by
    rw [← List.append_assoc, ← List.append_assoc]
    cases behind with
    | nil => rw [List.append_nil, takeWhile_ne_of_not_mem hfront]
    | cons c text =>
        obtain rfl : c = '{' := hbehind c rfl
        exact takeWhile_ne_append hfront text
  have hpadded := (padded_trim (gap ++ (header ++ (space ++ behind)))).takeWhile_ne
    (c := '{') (by decide)
  rw [hcut] at hpadded
  rw [← takeDecorators_padded hpadded]
  exact takeDecorators_padded ⟨gap, space, rfl, hgap, hspace⟩

end WritesHeader

theorem leadingBlank_append {blanks rest : List (List Char)} {line : List Char}
    (hblanks : ∀ other ∈ blanks, isAllBlank other = true) (hline : isAllBlank line = false) :
    leadingBlank (blanks ++ line :: rest) = blanks.length := by
  rw [leadingBlank, List.takeWhile_append_of_pos hblanks,
    List.takeWhile_cons_of_neg (by simp [hline]), List.append_nil]

theorem startsWith_brace_trim {indent : List Char} (hindent : ∀ c ∈ indent, isBlank c = true)
    (text : List Char) : startsWith ['{'] (trim (indent ++ '{' :: text)) = true := by
  have hline : trim (indent ++ '{' :: text) = '{' :: trimEnd text := by
    rw [trim, trimStart_blank_append hindent, ← trim]
    exact trim_append (by decide : trim ['{'] = ['{']) (List.cons_ne_nil _ _) text
  rw [hline]
  rfl

namespace OpensBlock

variable {header opening text : List Char} {before : List (List Char)}
  (h : OpensBlock header before opening text)
include h

/-- Only the header and blank lines stand before the line of the opening brace. -/
theorem isHeader_or_blank : ∀ line ∈ before, isHeader line = true ∨ isAllBlank line = true := by
  cases h with
  | here => exact fun _ hline => absurd hline List.not_mem_nil
  | below hheader hblanks =>
      exact List.forall_mem_cons.2
        ⟨.inl hheader.isHeader_eq_true, fun other hother => .inr (hblanks other hother)⟩

/-- The first line of a block is its header, and no other line up to the opening brace is one. -/
theorem exists_header (rest : List (List Char)) :
    ∃ line behind others, before ++ opening :: rest = line :: others ∧
      WritesHeader header behind line ∧ (∀ c ∈ behind.head?, c = '{') ∧
      ∀ other ∈ others, isHeader other = false ∨ other ∈ rest := by
  cases h with
  | here hheader => exact ⟨opening, _, rest, rfl, hheader, by simp, fun other hother => .inr hother⟩
  | @below line indent text blanks hheader hblanks hindent =>
      refine ⟨line, [], _, rfl, hheader, by simp, fun other hother => ?_⟩
      rcases List.mem_append.1 hother with hblank | hbehind
      · exact .inl (isHeader_of_isAllBlank (hblanks other hblank))
      · rcases List.mem_cons.1 hbehind with rfl | hrest
        · exact .inl (isHeader_of_head hindent (by decide) (by decide))
        · exact .inr hrest

variable (hbrace : '{' ∉ header)
include hbrace

/-- The opening brace is the first brace of its line. -/
theorem exists_front : ∃ front, opening = front ++ '{' :: text ∧ '{' ∉ front := by
  cases h with
  | here hheader => exact hheader.exists_front hbrace
  | below _ _ hindent => exact ⟨_, rfl, not_mem_of_blank (by decide) hindent⟩

theorem afterBrace_eq : afterBrace opening = text := by
  rcases h.exists_front hbrace with ⟨front, rfl, hfront⟩
  exact afterBrace_append_cons hfront text

theorem brace_mem : '{' ∈ opening := by
  rcases h.exists_front hbrace with ⟨front, rfl, -⟩
  simp

/-- A block belongs to the lines from its opening brace on. -/
theorem opens (rest : List (List Char)) :
    Block.Opens 0 (before ++ opening :: rest) before opening rest
      ⟨0, before.length, before.length + closingDistance opening rest⟩ where
  lines_eq := rfl
  opening_eq := (Nat.zero_add _).symm
  brace := h.brace_mem hbrace
  closing_eq := rfl

/-- Lines that a block takes up to their end are this block alone. -/
theorem blocks_eq {rest : List (List Char)}
    (hdistance : rest.length ≤ closingDistance opening rest) :
    blocks (before ++ opening :: rest) =
      [⟨0, before.length, before.length + closingDistance opening rest⟩] := by
  have hdrop : rest.drop (closingDistance opening rest) = [] := List.drop_eq_nil_of_le hdistance
  have hnil (position : Nat) : blocksFrom position [] = [] := by rw [blocksFrom]
  rcases h.exists_front hbrace with ⟨front, hopening, -⟩
  have hmem : opening.contains '{' = true := by simp [hopening]
  cases h with
  | here hheader =>
      rw [List.nil_append, blocks, blocksFrom]
      simp only [hheader.isHeader_eq_true, hmem, hdrop, hnil]
      rfl
  | @below line indent text blanks hheader hblanks hindent =>
      have hline : line.contains '{' = false := by
        rcases hheader.exists_front hbrace with ⟨front, rfl, hfront⟩
        simpa using hfront
      have hwritten : isAllBlank (indent ++ '{' :: text) = false := by
        simp [isAllBlank, show isBlank '{' = false by decide]
      have hleading : leadingBlank (blanks ++ (indent ++ '{' :: text) :: rest) = blanks.length :=
        leadingBlank_append hblanks hwritten
      rw [List.cons_append, blocks, blocksFrom, if_neg (by simp [hheader.isHeader_eq_true]),
        if_neg (by rw [hline]; decide)]
      split
      · rename_i hnone
        rw [hleading, List.drop_left] at hnone
        contradiction
      · rename_i next others hnext
        rw [hleading, List.drop_left] at hnext
        cases hnext
        rw [if_pos (startsWith_brace_trim hindent text)]
        simp only [hdrop, hnil, hleading, List.length_cons, Nat.zero_add, Nat.add_comm 1]

end OpensBlock

/-! ## Layouts -/

/-- The lines of a block with a header and children of given bodies, and whether they close it. -/
inductive Layout (header : List Char) (bodies : List (List Char)) (closed : Bool) :
    List (List Char) → Prop where
  /-- The block goes on behind its opening brace. -/
  | intro {before rest : List (List Char)} {opening text : List Char}
    (hopens : OpensBlock header before opening text)
    (hholds : HoldsChildren closed bodies (text :: rest)) :
    Layout header bodies closed (before ++ opening :: rest)

section Lines

variable {header opening text : List Char} {bodies before rest : List (List Char)} {closed : Bool}
  (hopens : OpensBlock header before opening text)
  (hholds : HoldsChildren closed bodies (text :: rest)) (hbrace : '{' ∉ header)
  (hbodies : ∀ body ∈ bodies, IsChildBody body)
include hopens hholds hbrace hbodies

/-- A block closes on the last of its lines or behind them. -/
theorem closingDistance_add_toNat :
    closingDistance opening rest + closed.toNat = rest.length + 1 := by
  rw [closingDistance_eq, hopens.afterBrace_eq hbrace, hholds.countUnclosed_eq hbodies]
  rfl

/-- The lines of a layout are one block. -/
theorem blocks_layout :
    blocks (before ++ opening :: rest) =
      [⟨0, before.length, before.length + closingDistance opening rest⟩] := by
  have hdistance := closingDistance_add_toNat hopens hholds hbrace hbodies
  have := closed.toNat_le
  exact hopens.blocks_eq hbrace (by omega)

/-- The lines that a block does not own are its header or blank. -/
theorem isHeader_or_blank_of_not_owned {line : Nat × List Char}
    (hline : line ∈ linesOutsideBlocks (numbered (before ++ opening :: rest))) :
    isHeader line.2 = true ∨ isAllBlank line.2 = true := by
  have hdistance := closingDistance_add_toNat hopens hholds hbrace hbodies
  have hclosed := closed.toNat_le
  rw [linesOutsideBlocks, map_snd_numbered, blocks_layout hopens hholds hbrace hbodies,
    List.mem_filter, numbered, numberFrom_append, List.mem_append] at hline
  rcases hline with ⟨hbefore | hbehind, howned⟩
  · exact hopens.isHeader_or_blank line.2 (snd_mem_of_mem_numberFrom hbefore)
  · have hbounds := bounds_of_mem_numberFrom hbehind
    rw [List.length_cons] at hbounds
    simp only [isOwned, List.any_cons, List.any_nil, Block.owns, Bool.or_false, Bool.not_eq_true',
      Bool.and_eq_false_iff, decide_eq_false_iff_not] at howned
    omega

/-- A layout declares no elements. -/
theorem elementsOf_layout (kinds : List ElementKind) :
    elementsOf kinds (numbered (before ++ opening :: rest)) = ⟨[], []⟩ := by
  have hwords : ∀ word ∈ kinds.map ElementKind.word, IsKeyword word := by
    intro word hword
    rcases List.mem_map.1 hword with ⟨kind, -, rfl⟩
    cases kind <;> decide
  have hnone : declarations (kinds.map ElementKind.word)
      (linesOutsideBlocks (numbered (before ++ opening :: rest))) = [] := by
    refine declarations_eq_nil hwords fun line hline hword => ?_
    rcases isHeader_or_blank_of_not_owned hopens hholds hbrace hbodies hline with hheader | hblank
    · rw [isHeader_iff.1 hheader] at hword
      rcases List.mem_map.1 hword with ⟨kind, -, hkind⟩
      cases kind <;> contradiction
    · have htrim : trim line.2 = [] := trim_eq_nil_iff.2 (List.all_eq_true.1 hblank)
      rw [firstWord, htrim] at hword
      exact absurd (hwords _ hword) (by decide)
  rw [elementsOf, hnone]
  rfl

/-- Behind lines that close their block, other lines may follow. -/
theorem closesBlocks_layout (hclosed : closed = true) :
    ClosesBlocks (before ++ opening :: rest) where
  closing_lt := by
    have hdistance := closingDistance_add_toNat hopens hholds hbrace hbodies
    rw [blocks_layout hopens hholds hbrace hbodies]
    simp only [List.mem_singleton, forall_eq, List.length_append, List.length_cons]
    rw [hclosed, Bool.toNat_true] at hdistance
    omega
  brace_mem := by
    have hmem := hopens.brace_mem hbrace
    have hwritten : (!isAllBlank opening) = true := by
      cases hblank : isAllBlank opening with
      | false => rfl
      | true =>
          have hnone := contains_of_isAllBlank hblank (c := '{') (by decide)
          rw [List.contains_iff_mem.2 hmem] at hnone
          contradiction
    intro line hline hheader
    rw [writtenLines, List.filter_append,
      List.filter_cons_of_pos (p := fun other => !isAllBlank other) hwritten,
      List.getLast?_append_of_ne_nil _ (List.cons_ne_nil _ _)] at hline
    rcases List.mem_cons.1 (List.mem_of_getLast? hline) with rfl | hrest
    · exact hmem
    · have hnot := hholds.isHeader_eq_false line
        (List.mem_cons_of_mem _ (List.mem_filter.1 hrest).1)
      rw [hnot] at hheader
      contradiction

/-- The bodies of the children of a block are those that its lines show. -/
theorem childDeclarations_layout :
    (childDeclarations ⟨0, before.length, before.length + closingDistance opening rest⟩
        (numbered (before ++ opening :: rest))).map (Declaration.mapLine noLine) =
      bodies.map fun body => ⟨0, "component", trim body⟩ := by
  have hdistance := closingDistance_add_toNat hopens hholds hbrace hbodies
  have hclosed := closed.toNat_le
  have hinside := congrArg (List.flatMap splitChildren) (map_insideBlock (hopens.opens hbrace rest))
  rw [hopens.afterBrace_eq hbrace, List.take_of_length_le (by rw [List.length_cons]; omega),
    List.flatMap_map, List.flatMap_map, hholds.flatMap_splitChildren_eq hbodies] at hinside
  have hmap := congrArg (List.map fun body => (⟨0, "component", body⟩ : Declaration)) hinside
  rw [List.map_flatMap, List.map_map] at hmap
  rw [childDeclarations, List.map_flatMap]
  simp only [List.map_map]
  exact hmap

/-- The header of a layout is the only one that is read. -/
theorem exists_headers_eq :
    ∃ body, headers true (numbered (before ++ opening :: rest)) = [⟨1, "pipeline", body⟩] ∧
      takeDecorators (body.takeWhile (· != '{')) = takeDecorators header := by
  have hblocks := blocks_layout hopens hholds hbrace hbodies
  rcases hopens.exists_header rest with ⟨line, behind, others, hlines, hheader, hbehind, hothers⟩
  rcases hheader.exists_body with ⟨gap, space, -, -, hbody⟩
  refine ⟨_, ?_, hheader.takeDecorators_body hbrace hbody hbehind⟩
  have hfirst : declaration? ["pipeline"] (1, line) =
      some ⟨1, "pipeline", trim (gap ++ (header ++ (space ++ behind)))⟩ := by
    rw [declaration?, List.findSome?_cons, hbody]
    rfl
  have hlater (keep : Nat × List Char → Bool) :
      declarations ["pipeline"] ((numberFrom 2 others).filter keep) = [] := by
    refine declarations_eq_nil (by decide) fun other hother hword => ?_
    have hmem := snd_mem_of_mem_numberFrom (List.mem_filter.1 hother).1
    have hnot : isHeader other.2 = false := by
      rcases hothers other.2 hmem with hnot | hrest
      · exact hnot
      · exact hholds.isHeader_eq_false other.2 (List.mem_cons_of_mem _ hrest)
    rw [isHeader_iff.2 (List.mem_singleton.1 hword)] at hnot
    contradiction
  rw [headers, openBlocks_numbered, hblocks, hlines, numbered, numberFrom_cons,
    List.filter_cons_of_pos (by simp [Block.encloses]), declarations, List.filterMap_cons, hfirst]
  exact congrArg _ (hlater _)

end Lines

/-! ## Pipelines -/

/-- What a header and the bodies of children give, wherever they stand. -/
def readLaidOut (declared : List Element) (header : List Char) (bodies : List (List Char)) :
    Outcome Pipeline :=
  match readHeader declared ⟨0, "pipeline", header⟩ with
  | .error fault => ⟨[], [fault.diagnostic 0]⟩
  | .ok pipeline =>
    let inner := collect (readChild pipeline.visibility)
      (bodies.map fun body => ⟨0, "component", trim body⟩)
    ⟨[{ pipeline with children := inner.records }], inner.errors⟩

/-- A header is read from its line and its body without groups. -/
theorem readHeader_eq_of_takeDecorators {declared : List Element} {header other : Declaration}
    (hline : header.line = other.line)
    (hbody : takeDecorators (header.body.takeWhile (· != '{')) =
      takeDecorators (other.body.takeWhile (· != '{'))) :
    readHeader declared header = readHeader declared other := by
  simp only [readHeader, hline, hbody]

namespace Layout

/-- The first line of a layout is a header. -/
theorem exists_header {header : List Char} {bodies lines : List (List Char)} {closed : Bool}
    (h : Layout header bodies closed lines) :
    ∃ line rest, lines = line :: rest ∧ isHeader line = true := by
  rcases h with @⟨before, rest, opening, text, hopens, -⟩
  rcases hopens.exists_header rest with ⟨line, behind, others, hlines, hheader, -⟩
  exact ⟨line, others, hlines, hheader.isHeader_eq_true⟩

variable {header : List Char} {bodies lines : List (List Char)} {closed : Bool}
  (h : Layout header bodies closed lines) (hbrace : '{' ∉ header)
  (hbodies : ∀ body ∈ bodies, IsChildBody body)
include h hbrace hbodies

/-- A layout declares no elements. -/
theorem elementsOf_eq (kinds : List ElementKind) :
    elementsOf kinds (numbered lines) = ⟨[], []⟩ := by
  rcases h with ⟨hopens, hholds⟩
  exact elementsOf_layout hopens hholds hbrace hbodies kinds

/-- Behind a layout with its closing brace, other lines may follow. -/
theorem closesBlocks (hclosed : closed = true) : ClosesBlocks lines := by
  rcases h with ⟨hopens, hholds⟩
  exact closesBlocks_layout hopens hholds hbrace hbodies hclosed

/-- A layout gives what its header and the bodies of its children give. -/
theorem pipelinesAmong_eq (declared : List Element) :
    (pipelinesAmong declared lines).mapLines (Pipeline.mapLine noLine) noLine =
      readLaidOut declared header bodies := by
  rcases h with @⟨before, rest, opening, text, hopens, hholds⟩
  rcases exists_headers_eq hopens hholds hbrace hbodies with ⟨body, hheaders, hdecorators⟩
  have hchildren := childDeclarations_layout hopens hholds hbrace hbodies
  rw [pipelinesAmong, hheaders, blocks_layout hopens hholds hbrace hbodies, List.map_singleton,
    concat_singleton, readLaidOut]
  generalize numbered (before ++ opening :: rest) = all at hchildren ⊢
  generalize before.length + closingDistance opening rest = closing at hchildren ⊢
  have hread : readHeader declared ⟨0, "pipeline", header⟩ =
      (readHeader declared ⟨1, "pipeline", body⟩).map (Pipeline.mapLine noLine) := by
    rw [← readHeader_mapLine_same]
    refine readHeader_eq_of_takeDecorators rfl ?_
    rw [takeWhile_ne_of_not_mem hbrace]
    exact hdecorators.symm
  rw [hread, readPipeline]
  cases readHeader declared ⟨1, "pipeline", body⟩ with
  | error fault => rfl
  | ok pipeline =>
      have hinner : (children ⟨0, before.length, closing⟩ pipeline.visibility all).mapLines
          (PipelineChild.mapLine noLine) noLine =
            collect (readChild pipeline.visibility)
              (bodies.map fun body => ⟨0, "component", trim body⟩) := by
        rw [children, ← hchildren]
        exact (collect_mapLine fun d _ => readChild_mapLine noLine pipeline.visibility d).symm
      have hvisibility : (pipeline.mapLine noLine).visibility = pipeline.visibility := rfl
      simp only [Except.map, hvisibility, ← hinner]
      rfl

end Layout

end Construct
end Wardley
