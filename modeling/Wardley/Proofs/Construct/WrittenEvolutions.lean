import Wardley.Proofs.Construct.Surroundings
import Wardley.Proofs.Notation.ClauseOrder
import Wardley.Proofs.Notation.Padding

/-!
# Evolutions as they are written

An evolution is written as the name of its source, perhaps an arrow with the name of the
projection, a numeral, and then a label and decorator groups in any order.  The label and
the groups are cut out wherever they stand, so that the numeral is the last word that is left.
Names may hold numerals and the words of clauses: only brackets make a clause of a word.

Main definitions:

- `GappedClause`: a clause with the blanks in front of it.
- `WrittenEvolution`: the parts of a written evolution, with its `body` and its `evolved`.
- `WrittenEvolution.IsReadable`: the parts can be told apart.

Main results:

- `skips_label_of_not_mem`: no label begins in names and numerals without brackets.
- `IsReadable.takeLabel_body`, `IsReadable.takeDecorators_bare`: what the readings cut out.
- `splitTarget?_append`: the numeral at the end is told from the names in front of it.
- `IsReadable.breakAt_target`: the names are told apart by the arrow.
- `WrittenEvolution.read_evolutions`: a written evolution among other lines is read back.
-/

namespace Wardley

open Construct Notation Text

/-! ## Clauses with blanks in front of them -/

/-- A clause with the blanks in front of it. -/
structure GappedClause where
  gap : List Char
  clause : Clause

/-- Texts of clauses with their blanks. -/
def gapped (text : Clause → List Char) (clauses : List GappedClause) : List Char :=
  clauses.flatMap fun part => part.gap ++ text part.clause

namespace Notation

/-- What is left of a clause without the label. -/
def Clause.unlabelled : Clause → List Char
  | label _ _ => [' ']
  | clause => clause.text

/-- The clause is a label or a group. -/
def Clause.isEvolving : Clause → Bool
  | label _ _ => true
  | group _ _ => true
  | _ => false

end Notation

/-- Parts of an evolution: labels and groups with blanks in front of them. -/
def AreParts (parts : List GappedClause) : Prop :=
  ∀ part ∈ parts, part.clause.isEvolving = true ∧ ∀ c ∈ part.gap, isBlank c = true

/-! ## Written evolutions -/

/-- The arrow and the name of a projection, with the blanks around the arrow. -/
structure WrittenProjection where
  before : List Char
  behind : List Char
  name : List Char

/-- The parts of a written evolution. -/
structure WrittenEvolution where
  name : List Char
  projection : Option WrittenProjection := none
  maturity : Numeral
  clauses : List GappedClause := []

/-- The characters that mean something in an evolution. -/
def brackets : List Char := ['(', ')', '[', ']']

/-- A name of words with single spaces between them, and without brackets. -/
structure IsPlainName (name : List Char) : Prop where
  ne_nil : name ≠ []
  collapse_eq : collapse name = name
  not_mem : ∀ c ∈ name, c ∉ brackets

namespace WrittenEvolution

/-- The names of the source and of the projection. -/
def target (written : WrittenEvolution) : List Char :=
  match written.projection with
  | none => written.name
  | some projection =>
    written.name ++ (projection.before ++ '-' :: '>' :: (projection.behind ++ projection.name))

/-- The names and the numeral. -/
def lead (written : WrittenEvolution) : List Char :=
  written.target ++ ' ' :: written.maturity.text

/-- The body of a written evolution. -/
def body (written : WrittenEvolution) : List Char :=
  written.lead ++ gapped Clause.text written.clauses

/-- The line of a written evolution. -/
def line (written : WrittenEvolution) : List Char := keywordLine "evolve" written.body

/-- The marks of all groups. -/
def marks (written : WrittenEvolution) : List Mark :=
  written.clauses.flatMap fun part => part.clause.marks

/-- The offset of the label. -/
def label? (written : WrittenEvolution) : Option Label :=
  written.clauses.findSome? fun part => part.clause.label?

/-- The evolution that is written on a line. -/
def evolved (written : WrittenEvolution) (line : Nat) : Evolved where
  name := String.ofList written.name
  maturity := .float written.maturity.value
  override := written.projection.map fun projection => String.ofList projection.name
  label := written.label?.getD .standard
  line := some (.int line)
  decorators := markedDecorators written.marks

/-- The parts of a written evolution can be told apart. -/
structure IsReadable (written : WrittenEvolution) : Prop where
  name : IsPlainName written.name
  noArrow : ¬ ['-', '>'] <:+: written.name
  projection : ∀ projection ∈ written.projection, IsPlainName projection.name ∧
    (∀ c ∈ projection.before, isBlank c = true) ∧ ∀ c ∈ projection.behind, isBlank c = true
  areParts : AreParts written.clauses
  one_label : written.clauses.countP (fun part => part.clause.label?.isSome) ≤ 1
  /-- Blanks part a label from the numeral. -/
  apart : ∀ part ∈ written.clauses.head?, part.clause.label?.isSome = true → part.gap ≠ []

end WrittenEvolution

/-! ## The label -/

/-- No label begins in a text without brackets that does not end in its word. -/
theorem skips_label_of_not_mem {text : List Char} (hbracket : '[' ∉ text) {last : Char}
    (hlast : text.getLast? = some last) (hsolid : isBlank last = false)
    (hnot : last ∉ "label".toList) (rest : List Char) :
    Skips "label".toList takeOffset? text rest := by
  rintro start finish rfl hne
  rw [Option.bind_eq_none_iff]
  intro after hafter
  have hword := afterPrefix_eq_some.1 hafter
  rw [List.getLast?_append_of_ne_nil _ hne] at hlast
  rcases List.prefix_or_prefix_of_prefix ⟨after, hword.symm⟩ (List.prefix_append finish rest) with
    ⟨behind, rfl⟩ | hover
  · -- what stands behind the word in the text is no bracket
    rw [List.append_assoc] at hword
    rw [← List.append_cancel_left hword]
    have hbehind : behind ≠ [] := by
      rintro rfl
      rw [List.append_nil] at hlast
      exact hnot (List.mem_of_getLast? hlast)
    have hmem : last ∈ behind := by
      rw [List.getLast?_append_of_ne_nil _ hbehind] at hlast
      exact List.mem_of_getLast? hlast
    have hblank : ¬ ∀ c ∈ behind, isBlank c = true := fun hall => by
      rw [hall last hmem] at hsolid
      cases hsolid
    have hstart : trimStart behind ≠ [] := by
      rwa [Ne, trimStart, List.dropWhile_eq_nil_iff]
    apply takeBrackets?_eq_none
    rw [trimStart_append hblank, List.head?_append_of_ne_nil _ hstart]
    intro hhead
    apply hbracket
    rw [List.mem_append, List.mem_append]
    exact .inr (.inr ((List.dropWhile_sublist _).mem (List.mem_of_mem_head? hhead)))
  · exact absurd (hover.subset (List.mem_of_getLast? hlast)) hnot

/-- No label starts among blanks. -/
theorem skips_label_of_blank {blanks : List Char} (hblanks : ∀ c ∈ blanks, isBlank c = true)
    (rest : List Char) : Skips "label".toList takeOffset? blanks rest := by
  have hletters : ∀ c ∈ "label".toList, isBlank c = false := List.all_iff_forall_prop.1 (by decide)
  rcases List.eq_nil_or_concat' blanks with rfl | ⟨start, last, rfl⟩
  · exact Skips.nil rest
  · have hlast : isBlank last = true := hblanks last (by simp)
    have hnot : last ∉ "label".toList := fun hmem => by
      rw [hletters last hmem] at hlast
      cases hlast
    exact skips_of_not_mem (c := 'l') List.getLast?_concat hnot List.mem_cons_self
      (not_mem_of_blank (by decide) hblanks) rest

/-- No bracket stands in a group. -/
theorem not_mem_groupText (marks : List Mark) : '[' ∉ groupText marks := by
  have hword (mark : Mark) : '[' ∉ mark.word := by
    cases mark with
    | decorator d => cases d <;> decide
    | inertia => decide
  have hcontent : '[' ∉ groupContent marks := by
    intro hmem
    rcases mem_intercalate hmem with hseparator | ⟨word, hmap, hmem⟩
    · revert hseparator
      decide
    · rcases List.mem_map.1 hmap with ⟨mark, -, rfl⟩
      exact hword mark hmem
  simpa [groupText] using hcontent

/-- A written group ends in a parenthesis. -/
theorem getLast?_append_groupText (front : List Char) (marks : List Mark) :
    (front ++ groupText marks).getLast? = some ')' := by
  rw [groupText, ← List.cons_append, ← List.append_assoc, List.getLast?_concat]

/-- An evolving clause that is no label is a group. -/
theorem exists_group {clause : Clause} (hevolving : clause.isEvolving = true)
    (hlabel : clause.label? = none) : ∃ first others, clause = .group first others := by
  cases clause with
  | group first others => exact ⟨first, others, rfl⟩
  | label x y => cases hlabel
  | inertia => cases hevolving
  | url name => cases hevolving

section Groups

variable {parts : List GappedClause} (hparts : AreParts parts)
  (hlabel : ∀ part ∈ parts, part.clause.label? = none)
include hparts hlabel

/-- No label begins in groups. -/
theorem skips_label_gapped (rest : List Char) :
    Skips "label".toList takeOffset? (gapped Clause.text parts) rest := by
  induction parts with
  | nil => exact Skips.nil rest
  | cons part others ih =>
      rcases List.forall_mem_cons.1 hparts with ⟨⟨hevolving, hgap⟩, hothers⟩
      rcases List.forall_mem_cons.1 hlabel with ⟨hpart, hlater⟩
      rcases exists_group hevolving hpart with ⟨first, more, hgroup⟩
      have hbracket : '[' ∉ part.gap ++ part.clause.text := by
        rw [List.mem_append, not_or, hgroup]
        exact ⟨not_mem_of_blank (by decide) hgap, not_mem_groupText _⟩
      have hlast : (part.gap ++ part.clause.text).getLast? = some ')' := by
        rw [hgroup]
        exact getLast?_append_groupText _ _
      exact (skips_label_of_not_mem hbracket hlast (by decide) (by decide) _).append
        (ih hothers hlater)

/-- Groups end in a parenthesis. -/
theorem getLast?_gapped (hne : parts ≠ []) :
    (gapped Clause.text parts).getLast? = some ')' := by
  rcases List.eq_nil_or_concat' parts with rfl | ⟨start, part, rfl⟩
  · contradiction
  · have hmem : part ∈ start ++ [part] := by simp
    rcases exists_group (hparts part hmem).1 (hlabel part hmem) with ⟨first, more, hgroup⟩
    rw [gapped, List.flatMap_append, List.flatMap_singleton, hgroup, ← List.append_assoc]
    exact getLast?_append_groupText _ _

/-- No word goes on behind groups and blanks, unless both are missing. -/
theorem goesOn_gapped {gap : List Char} (hgap : ∀ c ∈ gap, isBlank c = true)
    (hapart : parts = [] → gap ≠ []) (front : List Char) :
    goesOn false (front ++ (gapped Clause.text parts ++ gap)) = false := by
  rw [← List.append_assoc]
  by_cases hnil : gap = []
  · -- the last group ends in a parenthesis
    have hlast := getLast?_gapped hparts hlabel fun hempty => hapart hempty hnil
    have hne : gapped Clause.text parts ≠ [] := by
      intro hempty
      rw [hempty] at hlast
      cases hlast
    have hparenthesis : isWord ')' = false := by decide
    rw [hnil, List.append_nil, goesOn, List.getLast?_append_of_ne_nil _ hne, hlast]
    exact hparenthesis
  · rcases Option.isSome_iff_exists.1 (List.getLast?_isSome.2 hnil) with ⟨last, hlast⟩
    rw [goesOn, List.getLast?_append_of_ne_nil _ hnil, hlast]
    exact isWord_of_isBlank (hgap last (List.mem_of_mem_getLast? hlast))

/-- Without labels, all clauses are left. -/
theorem gapped_unlabelled : gapped Clause.unlabelled parts = gapped Clause.text parts := by
  refine List.flatMap_congr fun part hpart => ?_
  rcases exists_group (hparts part hpart).1 (hlabel part hpart) with ⟨first, more, hgroup⟩
  rw [hgroup]
  rfl

end Groups

/-! ## Readable evolutions -/

/-- The numeral is the end of what stands in front of the clauses. -/
theorem WrittenEvolution.getLast?_lead (written : WrittenEvolution) :
    ∃ last, written.lead.getLast? = some last ∧
    (isDigit last = true ∨ last = '.') ∧ last ∈ written.maturity.text := by
  have hne := written.maturity.text_ne_nil
  have hlead : written.lead = (written.target ++ [' ']) ++ written.maturity.text := by
    simp [lead]
  rcases Option.isSome_iff_exists.1 (List.getLast?_isSome.2 hne) with ⟨last, hlast⟩
  refine ⟨last, ?_, written.maturity.getLast?_text last hlast, List.mem_of_mem_getLast? hlast⟩
  rw [hlead, List.getLast?_append_of_ne_nil _ hne, hlast]

namespace WrittenEvolution.IsReadable

variable {written : WrittenEvolution} (h : written.IsReadable)
include h

/-- Nothing in front of the clauses is a bracket. -/
theorem not_mem_lead {c : Char} (hc : c ∈ brackets) : c ∉ written.lead := by
  have hbrackets : ∀ c ∈ brackets, isBlank c = false ∧ Numeral.isNumeric c = false ∧
      c ∉ ['-', '>', ' '] := List.all_iff_forall_prop.1 (by decide)
  rcases hbrackets c hc with ⟨hblank, hnumeric, hothers⟩
  simp only [List.mem_cons, List.not_mem_nil, or_false, not_or] at hothers
  have hname : c ∉ written.name := fun hmem => h.name.not_mem c hmem hc
  have htarget : c ∉ written.target := by
    rw [target]
    split
    · exact hname
    · rename_i projection hprojection
      rcases h.projection projection hprojection with ⟨hplain, hbefore, hbehind⟩
      have hprojected : c ∉ projection.name := fun hmem => hplain.not_mem c hmem hc
      simp [hname, hothers, hprojected, not_mem_of_blank hblank hbefore,
        not_mem_of_blank hblank hbehind]
  simp [lead, htarget, hothers, written.maturity.not_mem_text hnumeric]

/-- No label begins in the names and the numeral. -/
theorem skips_label_lead (rest : List Char) :
    Skips "label".toList takeOffset? written.lead rest := by
  have hletters : ∀ c ∈ "label".toList, isDigit c = false ∧ c ≠ '.' :=
    List.all_iff_forall_prop.1 (by decide)
  rcases written.getLast?_lead with ⟨last, hlast, hend, hmem⟩
  refine skips_label_of_not_mem (h.not_mem_lead (by decide)) hlast
    (written.maturity.isBlank_of_mem_text hmem) ?_ rest
  intro hletter
  rcases hletters last hletter with ⟨hdigit, hpoint⟩
  rcases hend with hend | hend
  · rw [hdigit] at hend
    cases hend
  · exact hpoint hend

/-- The label is cut out of the body of a written evolution. -/
theorem takeLabel_body : ∃ rest, takeLabel written.body = .ok (written.label?, rest) ∧
    takeDecorators rest =
      takeDecorators (written.lead ++ gapped Clause.unlabelled written.clauses) := by
  cases hlabel : written.label? with
  | none =>
      have hnone : ∀ part ∈ written.clauses, part.clause.label? = none :=
        List.findSome?_eq_none_iff.1 hlabel
      have hfind := ((h.skips_label_lead _).append
        (skips_label_gapped h.areParts hnone [])).findClause_eq false
      rw [List.append_nil] at hfind
      unfold takeOffset? at hfind
      refine ⟨written.body, ?_, ?_⟩
      · rw [takeLabel, body, hfind]
        rfl
      · rw [body, gapped_unlabelled h.areParts hnone]
  | some label =>
      rcases exists_only hlabel h.one_label with
        ⟨before, part, after, hclauses, hpart, hbefore, hafter⟩
      obtain ⟨x, y, hclause⟩ : ∃ x y, part.clause = .label x y := by
        cases hclause : part.clause <;> rw [hclause] at hpart <;> cases hpart
        exact ⟨_, _, rfl⟩
      obtain rfl : ⟨.float x.value, .float y.value⟩ = label := by
        rw [hclause] at hpart
        exact Option.some.inj hpart
      have hparts := h.areParts
      rw [hclauses] at hparts
      have hfirst : AreParts before := fun other hother => hparts other (by simp [hother])
      have hlast : AreParts after := fun other hother => hparts other (by simp [hother])
      have hgap := (hparts part (by simp)).2
      have hskip := (h.skips_label_lead _).append ((skips_label_gapped hfirst hbefore _).append
        (skips_label_of_blank hgap (labelText (pairText x y) ++ gapped Clause.text after)))
      have hfresh := goesOn_gapped hfirst hbefore hgap (fun hempty => h.apart part
        (by rw [hclauses, hempty]; rfl) (by rw [hpart]; rfl)) written.lead
      have hbody : written.body = (written.lead ++ (gapped Clause.text before ++ part.gap)) ++
          (labelText (pairText x y) ++ gapped Clause.text after) := by
        rw [body, hclauses]
        simp [gapped, hclause]
      have hrest : written.lead ++ gapped Clause.unlabelled written.clauses =
          (written.lead ++ (gapped Clause.text before ++ part.gap)) ++
            ' ' :: gapped Clause.text after := by
        have hsplit : gapped Clause.unlabelled written.clauses =
            gapped Clause.unlabelled before ++
              (part.gap ++ ' ' :: gapped Clause.unlabelled after) := by
          rw [hclauses]
          simp [gapped, hclause, Clause.unlabelled]
        rw [hsplit, gapped_unlabelled hfirst hbefore, gapped_unlabelled hlast hafter]
        simp
      refine ⟨closeGap (written.lead ++ (gapped Clause.text before ++ part.gap))
        (gapped Clause.text after), ?_, ?_⟩
      · rw [hbody]
        exact takeLabel_label x y _ hskip hfresh
      · rw [hrest, closeGap]
        exact (takeDecorators_padded (padded_trim _)).symm

end WrittenEvolution.IsReadable

/-! ## The groups -/

/-- The pieces of a part without the label. -/
def GappedClause.pieces (part : GappedClause) : List Piece :=
  part.gap.map Piece.char ++
    match part.clause with
    | .group first others => [.group (groupContent (first :: others))]
    | clause => clause.unlabelled.map Piece.char

section Parts

variable {part : GappedClause} (hevolving : part.clause.isEvolving = true)
include hevolving

/-- The pieces of a clause behind a gap come before those of the text behind it. -/
theorem GappedClause.pieces_append (hgap : ∀ c ∈ part.gap, isBlank c = true)
    (text : List Char) :
    Notation.pieces (part.gap ++ (part.clause.unlabelled ++ text)) =
      part.pieces ++ Notation.pieces text := by
  have hspace : '(' ∉ [' '] := by decide
  rw [Notation.pieces_append (not_mem_of_blank (by decide) hgap), pieces, List.append_assoc]
  congr 1
  cases hclause : part.clause with
  | label x y => exact Notation.pieces_append hspace text
  | group first others => exact pieces_groupText _ text
  | inertia => rw [hclause] at hevolving; cases hevolving
  | url name => rw [hclause] at hevolving; cases hevolving

/-- The pieces of a clause set its marks. -/
theorem GappedClause.marks_pieces : part.pieces.flatMap Piece.marks = part.clause.marks := by
  rw [pieces, List.flatMap_append, marks_map_char, List.nil_append]
  cases hclause : part.clause with
  | label x y => rfl
  | group first others => exact (List.flatMap_singleton ..).trans (marks_groupContent _)
  | inertia => rw [hclause] at hevolving; cases hevolving
  | url name => rw [hclause] at hevolving; cases hevolving

/-- The gap and a space remain of a clause. -/
theorem GappedClause.remains_pieces :
    part.pieces.flatMap Piece.remains = part.gap ++ [' '] := by
  rw [pieces, List.flatMap_append, remains_map_char]
  congr 1
  cases hclause : part.clause with
  | label x y => rfl
  | group first others =>
      exact (List.flatMap_singleton ..).trans (remains_groupContent (List.cons_ne_nil _ _))
  | inertia => rw [hclause] at hevolving; cases hevolving
  | url name => rw [hclause] at hevolving; cases hevolving

end Parts

/-- The pieces of clauses follow one another. -/
theorem pieces_gapped {parts : List GappedClause} (hparts : AreParts parts) :
    pieces (gapped Clause.unlabelled parts) = parts.flatMap GappedClause.pieces := by
  induction parts with
  | nil => rw [gapped, List.flatMap_nil, pieces, List.flatMap_nil]
  | cons part others ih =>
      rcases List.forall_mem_cons.1 hparts with ⟨⟨hevolving, hgap⟩, hothers⟩
      rw [List.flatMap_cons, ← ih hothers, ← GappedClause.pieces_append hevolving hgap]
      simp [gapped]

/-- All groups are taken out of a written evolution, and the names and the numeral are left. -/
theorem WrittenEvolution.IsReadable.takeDecorators_bare {written : WrittenEvolution}
    (h : written.IsReadable) :
    takeDecorators (written.lead ++ gapped Clause.unlabelled written.clauses) =
      ⟨markedDecorators written.marks, written.marks.contains .inertia,
        collapse written.lead⟩ := by
  have hparts := pieces_append (h.not_mem_lead (c := '(') (by decide))
    (gapped Clause.unlabelled written.clauses)
  rw [pieces_gapped h.areParts] at hparts
  have hmarks : (pieces (written.lead ++ gapped Clause.unlabelled written.clauses)).flatMap
      Piece.marks = written.marks := by
    rw [hparts, List.flatMap_append, marks_map_char, List.nil_append, List.flatMap_assoc, marks]
    exact List.flatMap_congr fun part hpart =>
      GappedClause.marks_pieces (h.areParts part hpart).1
  have hremains : Padded written.lead
      ((pieces (written.lead ++ gapped Clause.unlabelled written.clauses)).flatMap
        Piece.remains) := by
    refine ⟨[], written.clauses.flatMap fun part => part.gap ++ [' '], ?_, by simp, ?_⟩
    · rw [hparts, List.flatMap_append, remains_map_char, List.flatMap_assoc, List.nil_append]
      congr 1
      exact List.flatMap_congr fun part hpart =>
        GappedClause.remains_pieces (h.areParts part hpart).1
    · intro c hc
      rcases List.mem_flatMap.1 hc with ⟨part, hpart, hmem⟩
      rcases List.mem_append.1 hmem with hmem | hmem
      · exact (h.areParts part hpart).2 c hmem
      · rw [List.mem_singleton.1 hmem]
        decide
  rw [takeDecorators]
  simp only [hmarks, collapse, hremains.words_eq, foldl_apply]

/-! ## The numeral and the names -/

/-- The numeral at the end is told from the names in front of it. -/
theorem splitTarget?_append {target : List Char} (htrim : trim target = target)
    (hne : target ≠ []) (maturity : Numeral) :
    splitTarget? (target ++ ' ' :: maturity.text) = some (target, maturity.text) := by
  have hend : trimEnd (target ++ ' ' :: maturity.text) = target ++ ' ' :: maturity.text := by
    have hwhole : trim (target ++ ([' '] ++ maturity.text)) = target ++ ([' '] ++ maturity.text) :=
      trim_between htrim hne maturity.trim_text maturity.text_ne_nil [' ']
    rw [List.singleton_append] at hwhole
    rw [← hwhole, trimEnd_trim]
  have hreverse : (target ++ ' ' :: maturity.text).reverse =
      maturity.text.reverse ++ ' ' :: target.reverse := by simp
  have hsolid : ∀ c ∈ maturity.text.reverse, (!isBlank c) = true := fun c hc => by
    rw [maturity.isBlank_of_mem_text (List.mem_reverse.1 hc)]
    rfl
  have hspace : (!isBlank ' ') = false := by decide
  have hlast : (maturity.text.reverse ++ ' ' :: target.reverse).takeWhile (fun c => !isBlank c) =
      maturity.text.reverse := by
    rw [List.takeWhile_append_of_pos hsolid, List.takeWhile_cons_of_neg (by simp [hspace]),
      List.append_nil]
  have hfront : trimStart ((maturity.text.reverse ++ ' ' :: target.reverse).dropWhile
      fun c => !isBlank c) = target.reverse := by
    have hblank : isBlank ' ' = true := by decide
    rw [List.dropWhile_append_of_pos hsolid, List.dropWhile_cons_of_neg (by simp [hspace]),
      trimStart, List.dropWhile_cons_of_pos hblank, List.dropWhile_eq_self_iff]
    intro hpos hhead
    have hmem : target.reverse[0] ∈ target.getLast? := by
      rw [← List.head?_reverse, List.head?_eq_getElem?]
      exact List.getElem?_eq_getElem hpos
    rw [(trim_eq_self_iff.1 htrim).2 _ hmem] at hhead
    cases hhead
  rw [splitTarget?]
  simp only [hend, hreverse, hlast, hfront, List.reverse_reverse, maturity.decimal?_text]
  simp [hne]

/-- A name without an arrow holds none with blanks behind it. -/
theorem arrow_not_isInfix_append {name : List Char} (harrow : ¬ ['-', '>'] <:+: name)
    (blanks : List Char) : ¬ ['-', '>'] <:+: name ++ closedGap blanks := by
  rw [pair_isInfix_append]
  rintro (hin | hin | ⟨-, hhead⟩)
  · exact harrow hin
  · exact not_mem_of_blank (by decide) isBlank_of_mem_closedGap (hin.subset List.mem_cons_self)
  · exact not_mem_of_blank (by decide) isBlank_of_mem_closedGap (List.mem_of_mem_head? hhead)

namespace IsPlainName

variable {name : List Char} (h : IsPlainName name)
include h

/-- A readable name is collapsed already. -/
theorem isCollapsed : IsCollapsed name := isCollapsed_of_ne_nil h.collapse_eq h.ne_nil

/-- A name begins with a character that is not blank. -/
theorem exists_cons : ∃ c rest, name = c :: rest ∧ isBlank c = false := by
  rcases List.exists_cons_of_ne_nil h.ne_nil with ⟨c, rest, rfl⟩
  exact ⟨c, rest, rfl, (trim_eq_self_iff.1 h.isCollapsed.trim_eq).1 c rfl⟩

/-- Names with blanks and an arrow between them, collapsed. -/
theorem collapse_arrow {before behind other : List Char} (hbefore : ∀ c ∈ before, isBlank c = true)
    (hbehind : ∀ c ∈ behind, isBlank c = true) (hother : IsPlainName other) :
    collapse (name ++ (before ++ '-' :: '>' :: (behind ++ other))) =
      (name ++ closedGap before) ++ '-' :: '>' :: (closedGap behind ++ other) := by
  have harrow : IsCollapsed ['-', '>'] := ⟨by decide, by decide⟩
  rcases hother.exists_cons with ⟨c, rest, rfl, hc⟩
  have hright : collapse (['-', '>'] ++ (behind ++ c :: rest)) =
      ['-', '>'] ++ (closedGap behind ++ c :: rest) := by
    rw [harrow.collapse_append_blanks hbehind hc, hother.collapse_eq]
  rw [h.isCollapsed.collapse_append_blanks hbefore (by decide), List.append_assoc]
  exact congrArg (fun text => name ++ (closedGap before ++ text)) hright

/-- Blanks behind a name are trimmed away. -/
theorem trim_append_closedGap (blanks : List Char) : trim (name ++ closedGap blanks) = name := by
  rw [trim_append_blank isBlank_of_mem_closedGap, h.isCollapsed.trim_eq]

theorem trim_closedGap_append (blanks : List Char) : trim (closedGap blanks ++ name) = name := by
  rw [trim, trimStart_blank_append isBlank_of_mem_closedGap, ← trim, h.isCollapsed.trim_eq]

end IsPlainName

namespace WrittenEvolution.IsReadable

variable {written : WrittenEvolution} (h : written.IsReadable)
include h

/-- The names begin with a character that is not blank. -/
theorem words_target : words written.target ≠ [] := by
  rcases h.name.exists_cons with ⟨c, rest, hname, hc⟩
  refine words_ne_nil (c := c) ?_ hc
  rw [target]
  split <;> simp [hname]

/-- Collapsing leaves a space between the names and the maturity. -/
theorem collapse_lead :
    collapse written.lead = collapse written.target ++ ' ' :: written.maturity.text := by
  have hnumeral := isCollapsed_of_solid written.maturity.text_ne_nil
    fun c hc => written.maturity.isBlank_of_mem_text hc
  rw [lead, collapse_append_blank (by decide) h.words_target hnumeral.words_ne_nil,
    hnumeral.collapse_eq]

/-- The names are told apart by the arrow. -/
theorem breakAt_target :
    (written.projection = none ∧ breakAt ['-', '>'] (collapse written.target) = none ∧
      trim (collapse written.target) = written.name) ∨
    ∃ projection, written.projection = some projection ∧ ∃ source projected,
      breakAt ['-', '>'] (collapse written.target) = some (source, projected) ∧
      trim source = written.name ∧ trim projected = projection.name := by
  cases hprojection : written.projection with
  | none =>
      rw [target, hprojection]
      dsimp only
      rw [h.name.collapse_eq, breakAt_eq_none_iff]
      exact .inl ⟨rfl, h.noArrow, h.name.isCollapsed.trim_eq⟩
  | some projection =>
      rcases h.projection projection hprojection with ⟨hplain, hbefore, hbehind⟩
      rw [target, hprojection]
      dsimp only
      rw [h.name.collapse_arrow hbefore hbehind hplain]
      exact .inr ⟨projection, rfl, _, _,
        breakAt_pair_of_not_isInfix (by decide) (arrow_not_isInfix_append h.noArrow _) _,
        h.name.trim_append_closedGap _, hplain.trim_closedGap_append _⟩

/-- A written evolution ends in a character that is not blank. -/
theorem trim_body : trim written.body = written.body := by
  rw [trim_eq_self_iff]
  constructor
  · rcases h.name.exists_cons with ⟨c, rest, hname, hc⟩
    have hhead : written.body.head? = some c := by
      rw [body, lead, target]
      split <;> simp [hname]
    rw [hhead]
    simpa using hc
  · intro c hc
    rcases List.eq_nil_or_concat' written.clauses with hnil | ⟨start, part, hclauses⟩
    · rw [body, hnil, gapped, List.flatMap_nil, List.append_nil] at hc
      rcases written.getLast?_lead with ⟨last, hlast, -, hmem⟩
      rw [hlast] at hc
      cases hc
      exact written.maturity.isBlank_of_mem_text hmem
    · have hevolving := (h.areParts part (by simp [hclauses])).1
      have hend : ∃ front last, part.clause.text = front ++ [last] ∧ isBlank last = false := by
        cases hclause : part.clause with
        | label x y =>
            exact ⟨"label".toList ++ ' ' :: '[' :: pairText x y, ']', by simp [labelText_eq],
              by decide⟩
        | group first others =>
            exact ⟨'(' :: groupContent (first :: others), ')', rfl, by decide⟩
        | inertia => rw [hclause] at hevolving; cases hevolving
        | url name => rw [hclause] at hevolving; cases hevolving
      rcases hend with ⟨front, last, htext, hsolid⟩
      rw [body, hclauses, gapped, List.flatMap_append, List.flatMap_singleton, htext,
        ← List.append_assoc, ← List.append_assoc, ← List.append_assoc,
        List.getLast?_concat] at hc
      cases hc
      exact hsolid

/-- A written evolution is read back. -/
theorem readEvolution_body (line : Nat) (keyword : String) :
    readEvolution ⟨line, keyword, written.body⟩ = .ok (written.evolved line) := by
  rcases h.takeLabel_body with ⟨rest, hlabel, hrest⟩
  have hdecorators := hrest.trans h.takeDecorators_bare
  have hdrop : dropInertia (collapse written.lead) = (collapse written.lead, false) := by
    refine dropInertia_eq_self (trim_collapse _) ?_
    rintro ⟨start, hend, -⟩
    have hlast := congrArg List.getLast? (h.collapse_lead.symm.trans hend)
    rw [List.getLast?_append_of_ne_nil _ (List.cons_ne_nil _ _),
      List.getLast?_cons_of_ne_nil written.maturity.text_ne_nil,
      List.getLast?_append_of_ne_nil _ (by decide)] at hlast
    exact absurd (written.maturity.getLast?_text 'a' hlast) (by decide)
  have hsplit : splitTarget? (collapse written.lead) =
      some (collapse written.target, written.maturity.text) := by
    rw [h.collapse_lead]
    exact splitTarget?_append (trim_collapse _) (collapse_ne_nil h.words_target) written.maturity
  have hname : written.name.isEmpty = false := List.isEmpty_eq_false_iff.2 h.name.ne_nil
  rw [readEvolution, hlabel, ok_bind]
  dsimp only
  rw [hdecorators]
  dsimp only
  rw [hdrop]
  dsimp only
  rw [hsplit]
  dsimp only
  rcases h.breakAt_target with ⟨hprojection, hbreak, htrim⟩ |
    ⟨projection, hprojection, source, projected, hbreak, hsource, hprojected⟩
  · simp only [hbreak, htrim, hname, written.maturity.readNumber_text, evolved, hprojection]
    rfl
  · have hother : projection.name.isEmpty = false :=
      List.isEmpty_eq_false_iff.2 (h.projection projection hprojection).1.ne_nil
    simp only [hbreak, hsource, hprojected, hname, hother, written.maturity.readNumber_text,
      evolved, hprojection]
    rfl

end WrittenEvolution.IsReadable

namespace WrittenEvolution

variable {written : WrittenEvolution}

/-- A written evolution adds one evolution and no diagnostic. -/
theorem read_evolutions (h : written.IsReadable) {indent : List Char}
    (hindent : ∀ c ∈ indent, isBlank c = true) :
    Adds evolutions (indent ++ written.line) fun line => ⟨[written.evolved line], []⟩ := by
  have hkeyword : IsKeyword "evolve" := isKeyword_reservedKeywords _ (by decide)
  have hbody := keywordBody?_keywordLine hkeyword hindent written.body
  rw [h.trim_body] at hbody
  exact adds_record hbody fun line => h.readEvolution_body line "evolve"

theorem read_evolutions_ferry :
    -- the name holds the words of clauses, a numeral and half of an arrow
    let ferry : WrittenEvolution :=
      { name := "label inertia 5 -".toList
        projection := some ⟨[' ', '\t'], [' '], "label->9".toList⟩
        maturity := { sign := [], whole := ['9'], fraction := some ['5'] }
        clauses := [⟨[], .group (.decorator .buy) []⟩,
          ⟨[], .label { sign := ['-'], whole := ['1'] } { sign := [], whole := ['2'] }⟩,
          ⟨[' '], .group (.decorator .build) [.decorator .market]⟩] }
    ferry.IsReadable ∧ (∀ c ∈ [' '], isBlank c = true) ∧
      evolutions (numbered (["title Tea".toList] ++
          " evolve label inertia 5 - \t-> label->9 9.5(buy)label [-1, 2] (build, market)".toList ::
            ["Tea->Cup".toList])) =
        ⟨[{ name := "label inertia 5 -"
            maturity := .float (.ofDecimal ⟨false, 95, -1⟩)
            override := some "label->9"
            label := ⟨.float (.ofDecimal ⟨true, 1, 0⟩), .float (.ofDecimal ⟨false, 2, 0⟩)⟩
            line := some (.int 2)
            decorators := some ⟨false, true, true, true, false⟩ }], []⟩ := by
  intro ferry
  have hgap := isBlank_of_mem_space
  have hreadable : ferry.IsReadable :=
    { name := ⟨by decide, by decide, List.all_iff_forall_prop.1 (by decide)⟩
      noArrow := by decide
      projection := fun projection hprojection => by
        cases hprojection
        exact ⟨⟨by decide, by decide, List.all_iff_forall_prop.1 (by decide)⟩,
          List.all_iff_forall_prop.1 (by decide), hgap⟩
      areParts := by
        have hnone : ∀ c ∈ ([] : List Char), isBlank c = true := fun _ hc => by cases hc
        exact List.forall_mem_cons.2 ⟨⟨rfl, hnone⟩, List.forall_mem_cons.2
          ⟨⟨rfl, hnone⟩, List.forall_mem_singleton.2 ⟨rfl, hgap⟩⟩⟩
      one_label := by decide
      apart := fun part hpart hlabel => by
        cases hpart
        cases hlabel }
  exact ⟨hreadable, hgap,
    read_evolutions hreadable hgap ["title Tea".toList] ["Tea->Cup".toList]⟩

end WrittenEvolution

end Wardley
