import Mathlib.Data.Nat.Find
import Mathlib.Data.Set.List
import Mathlib.Logic.Relation
import Wardley.Proofs.Notation.Groups

/-!
# Decorator groups are independent flags

A group in parentheses is consumed if its words, of which there are some, are those of marks.
The consumed groups of a body set the flags of their decorators and of inertia, each on its own,
and a space stays in the place of each.  Which words stand together, in which order and how
often, does not matter, so that consumed groups may be merged, parted, repeated and permuted.

Main definitions:

- `IsConsumable`: the contents of groups that are consumed.
- `Consumes`: a consumable group stands in a body.
- `Cleared`: a body with spaces in the places of its consumable groups.
- `Regroups`: one change of the words, the bounds or the order of consumable groups.
- `SetsFlags`: what is read of the groups of a body.

Main results:

- `mem_pieces_group_iff`: the groups among the pieces of a body.
- `mem_marks_group_iff`: the marks of a group.
- `cleared_iff`: every body is cleared in one way.
- `takeDecorators_congr`: what the reading of groups depends on.
- `Regroups.takeDecorators_eq`, `Regroups.again`: a change of groups, and how one is repeated.
- `groups_setFlags`: what is read of the groups of every body.
-/

namespace Wardley
namespace Notation

open Text

/-! ## Groups of a body -/

/-- A word is read as the mark that it is the word of. -/
theorem Mark.ofWord?_eq_some_iff {word : List Char} {mark : Mark} :
    Mark.ofWord? word = some mark ↔ mark.word = word := by
  constructor
  · intro h
    rw [Mark.ofWord?] at h
    split at h
    · rename_i hword
      cases h
      exact hword.symm
    · rcases Option.map_eq_some_iff.1 h with ⟨decorator, hdecorator, rfl⟩
      rw [Decorator.ofWord?] at hdecorator
      have hword := List.find?_some hdecorator
      exact eq_of_beq hword
  · rintro rfl
    exact mark.ofWord?_word

/-- The words of a content are those of marks, and there are some; it holds no parentheses. -/
structure IsConsumable (content : List Char) : Prop where
  innermost : ∀ c ∈ content, isNoParenthesis c = true
  ne_nil : groupWords content ≠ []
  marks : ∀ word ∈ groupWords content, ∃ mark : Mark, mark.word = word

/-- Whether a group is consumed can be decided. -/
theorem isConsumable_iff {content : List Char} :
    IsConsumable content ↔ content.all isNoParenthesis = true ∧ groupWords content ≠ [] ∧
      (groupWords content).all (fun word => (Mark.ofWord? word).isSome) = true := by
  have hmark (word : List Char) : (Mark.ofWord? word).isSome = true ↔
      ∃ mark : Mark, mark.word = word := by
    simp only [Option.isSome_iff_exists, Mark.ofWord?_eq_some_iff]
  rw [List.all_eq_true, List.all_eq_true]
  simp only [hmark]
  exact ⟨fun h => ⟨h.innermost, h.ne_nil, h.marks⟩, fun ⟨h, hne, hmarks⟩ => ⟨h, hne, hmarks⟩⟩

instance (content : List Char) : Decidable (IsConsumable content) :=
  decidable_of_iff' _ isConsumable_iff

/-- A content in parentheses between two texts. -/
def grouped (before content after : List Char) : List Char :=
  before ++ '(' :: (content ++ ')' :: after)

/-- A consumable group of a body. -/
def Consumes (body content : List Char) : Prop :=
  ∃ before after, body = grouped before content after ∧ IsConsumable content

/-- A body with a space in the place of each of its consumable groups. -/
inductive Cleared : List Char → List Char → Prop where
  | plain {body : List Char} (hnone : ∀ content, ¬ Consumes body content) : Cleared body body
  | group {before content after rest : List Char} (hnone : ∀ inner, ¬ Consumes before inner)
      (hgroup : IsConsumable content) (hafter : Cleared after rest) :
      Cleared (grouped before content after) (before ++ ' ' :: rest)

/-- A group is one piece between those before and behind it. -/
theorem pieces_grouped {content : List Char} (h : ∀ c ∈ content, isNoParenthesis c = true)
    (before after : List Char) :
    pieces (grouped before content after) = pieces before ++ .group content :: pieces after :=
  pieces_append_group before h after

/-- The text of a piece. -/
def Piece.text : Piece → List Char
  | .char c => [c]
  | .group content => '(' :: (content ++ [')'])

/-- The pieces of a body make it up. -/
theorem flatMap_text_pieces (body : List Char) : (pieces body).flatMap Piece.text = body := by
  fun_induction pieces body with
  | case1 => rfl
  | case2 c rest content after hgroup ih =>
      rw [List.flatMap_cons, ih, (takeParentheses?_eq_some_iff.1 hgroup).1]
      simp [Piece.text]
  | case3 c rest hnone ih =>
      rw [List.flatMap_cons, ih]
      rfl

/-- The groups among the pieces of a body are those without inner parentheses. -/
theorem mem_pieces_group_iff {body content : List Char} :
    .group content ∈ pieces body ↔
      ∃ before after, body = grouped before content after ∧
        ∀ c ∈ content, isNoParenthesis c = true := by
  constructor
  · intro h
    have hinner : ∀ c ∈ content, isNoParenthesis c = true := by
      fun_induction pieces body with
      | case1 => cases h
      | case2 c rest inner after hgroup ih =>
          rcases List.mem_cons.1 h with heq | hmem
          · cases heq
            exact (takeParentheses?_eq_some_iff.1 hgroup).2
          · exact ih hmem
      | case3 c rest hnone ih =>
          rcases List.mem_cons.1 h with heq | hmem
          · cases heq
          · exact ih hmem
    rcases List.append_of_mem h with ⟨front, back, hsplit⟩
    refine ⟨front.flatMap Piece.text, back.flatMap Piece.text, ?_, hinner⟩
    rw [← flatMap_text_pieces body, hsplit, List.flatMap_append, List.flatMap_cons]
    simp [grouped, Piece.text]
  · rintro ⟨before, after, rfl, hinner⟩
    rw [pieces_grouped hinner]
    simp

/-! ## Marks of groups -/

/-- Words are read as the marks that they are the words of. -/
theorem mapM_ofWord?_eq_some_iff {texts : List (List Char)} {marks : List Mark} :
    texts.mapM Mark.ofWord? = some marks ↔ marks.map Mark.word = texts := by
  constructor
  · intro h
    induction texts generalizing marks with
    | nil =>
        cases h
        rfl
    | cons text rest ih =>
        simp only [List.mapM_cons, Option.bind_eq_bind, Option.bind_eq_some_iff,
          Option.pure_def, Option.some.injEq] at h
        rcases h with ⟨mark, hmark, others, hothers, rfl⟩
        rw [List.map_cons, ih hothers, Mark.ofWord?_eq_some_iff.1 hmark]
  · rintro rfl
    exact mapM_ofWord?_word marks

/-- A group without inner parentheses has the marks of its words, or it is not consumed. -/
theorem marks_group_cases {content : List Char} (h : ∀ c ∈ content, isNoParenthesis c = true) :
    (IsConsumable content ∧ (Piece.group content).marks.map Mark.word = groupWords content) ∨
    (¬ IsConsumable content ∧ (Piece.group content).marks = []) := by
  rw [Piece.marks]
  cases hmarks : (groupWords content).mapM Mark.ofWord? with
  | some marks =>
      have hwords := mapM_ofWord?_eq_some_iff.1 hmarks
      by_cases hnil : marks = []
      · subst hnil
        exact .inr ⟨fun hgroup => hgroup.ne_nil hwords.symm, rfl⟩
      · refine .inl ⟨⟨h, ?_, ?_⟩, hwords⟩
        · rw [← hwords]
          simpa using hnil
        · intro word hword
          rcases List.mem_map.1 (hwords ▸ hword) with ⟨mark, -, hmark⟩
          exact ⟨mark, hmark⟩
  | none =>
      refine .inr ⟨fun hgroup => ?_, rfl⟩
      -- the marks of the words would be read
      have hrange : ∀ word ∈ groupWords content, word ∈ Set.range Mark.word := hgroup.marks
      obtain ⟨marks, hwords⟩ : ∃ marks : List Mark, marks.map Mark.word = groupWords content := by
        rwa [← Set.mem_range, Set.range_list_map]
      rw [mapM_ofWord?_eq_some_iff.2 hwords] at hmarks
      cases hmarks

section Consumable

variable {content : List Char} (h : IsConsumable content)
include h

/-- The marks of a consumed group are its words. -/
theorem IsConsumable.map_word_marks :
    (Piece.group content).marks.map Mark.word = groupWords content := by
  rcases marks_group_cases h.innermost with ⟨-, hwords⟩ | ⟨hnot, -⟩
  · exact hwords
  · exact (hnot h).elim

/-- A consumed group sets the marks that its words name. -/
theorem IsConsumable.mem_marks_iff {mark : Mark} :
    mark ∈ (Piece.group content).marks ↔ mark.word ∈ groupWords content := by
  have hinjective : Function.Injective Mark.word := fun first second heq => by
    have hread := congrArg Mark.ofWord? heq
    simpa using hread
  rw [← h.map_word_marks, List.mem_map_of_injective hinjective]

/-- A space remains of a consumable group. -/
theorem IsConsumable.remains_eq : (Piece.group content).remains = [' '] := by
  have hne : (Piece.group content).marks ≠ [] := fun hnil => h.ne_nil (by
    rw [← h.map_word_marks, hnil, List.map_nil])
  rw [Piece.remains, List.isEmpty_eq_false_iff.2 hne]
  rfl

end Consumable

/-- The marks of a body are those of its consumable groups. -/
theorem mem_marks_pieces_iff {body : List Char} {mark : Mark} :
    mark ∈ (pieces body).flatMap Piece.marks ↔
      ∃ content, Consumes body content ∧ mark.word ∈ groupWords content := by
  rw [List.mem_flatMap]
  constructor
  · rintro ⟨piece, hpiece, hmark⟩
    cases piece with
    | char c => cases hmark
    | group content =>
        rcases mem_pieces_group_iff.1 hpiece with ⟨before, after, hbody, hinner⟩
        rcases marks_group_cases hinner with ⟨hgroup, -⟩ | ⟨-, hnone⟩
        · exact ⟨content, ⟨before, after, hbody, hgroup⟩, hgroup.mem_marks_iff.1 hmark⟩
        · rw [hnone] at hmark
          cases hmark
  · rintro ⟨content, ⟨before, after, hbody, hgroup⟩, hword⟩
    exact ⟨.group content, mem_pieces_group_iff.2 ⟨before, after, hbody, hgroup.innermost⟩,
      hgroup.mem_marks_iff.2 hword⟩

/-! ## Cleared bodies -/

/-- A body without consumable groups remains as it is. -/
theorem remains_of_none {body : List Char} (hnone : ∀ content, ¬ Consumes body content) :
    (pieces body).flatMap Piece.remains = body := by
  conv_rhs => rw [← flatMap_text_pieces body]
  refine List.flatMap_congr fun piece hpiece => ?_
  cases piece with
  | char c => rfl
  | group content =>
      rcases mem_pieces_group_iff.1 hpiece with ⟨before, after, hbody, hinner⟩
      rcases marks_group_cases hinner with ⟨hgroup, -⟩ | ⟨-, hmarks⟩
      · exact (hnone content ⟨before, after, hbody, hgroup⟩).elim
      · rw [Piece.remains, hmarks]
        rfl

/-- A space remains of a consumed group. -/
theorem remains_grouped {content : List Char} (h : IsConsumable content)
    (before after : List Char) :
    (pieces (grouped before content after)).flatMap Piece.remains =
      (pieces before).flatMap Piece.remains ++ ' ' :: (pieces after).flatMap Piece.remains := by
  rw [pieces_grouped h.innermost, List.flatMap_append, List.flatMap_cons, h.remains_eq]
  rfl

/-- One of the consumable groups of a body comes first. -/
theorem exists_first_group {body content : List Char} (h : Consumes body content) :
    ∃ before first after, body = grouped before first after ∧ IsConsumable first ∧
      ∀ inner, ¬ Consumes before inner := by
  classical
  have hsome : ∃ length before first after, List.length before = length ∧
      body = grouped before first after ∧ IsConsumable first := by
    rcases h with ⟨before, after, hbody, hgroup⟩
    exact ⟨_, before, content, after, rfl, hbody, hgroup⟩
  obtain ⟨before, first, after, hlength, hbody, hgroup⟩ := Nat.find_spec hsome
  refine ⟨before, first, after, hbody, hgroup, ?_⟩
  rintro inner ⟨start, finish, rfl, hinner⟩
  -- an earlier group would stand behind a shorter text
  have hlt : start.length < Nat.find hsome := by
    rw [← hlength]
    simp [grouped]
  have hearlier : body = grouped start inner (grouped finish first after) := by
    rw [hbody]
    simp [grouped]
  exact Nat.find_min hsome hlt ⟨start, inner, _, rfl, hearlier, hinner⟩

/-- Every body is cleared, and it is so in one way. -/
theorem cleared_iff {body cleared : List Char} :
    Cleared body cleared ↔ cleared = (pieces body).flatMap Piece.remains := by
  constructor
  · intro h
    induction h with
    | plain hnone => exact (remains_of_none hnone).symm
    | group hnone hgroup _ ih => rw [remains_grouped hgroup, remains_of_none hnone, ← ih]
  · rintro rfl
    induction hlength : body.length using Nat.strong_induction_on generalizing body with
    | _ length ih =>
        by_cases hsome : ∃ content, Consumes body content
        · obtain ⟨content, hcontent⟩ := hsome
          obtain ⟨before, first, after, rfl, hgroup, hnone⟩ := exists_first_group hcontent
          have hshorter : after.length < length := by
            rw [← hlength, grouped]
            simp
            omega
          rw [remains_grouped hgroup, remains_of_none hnone]
          exact .group hnone hgroup (ih _ hshorter rfl)
        · have hnone := not_exists.1 hsome
          rw [remains_of_none hnone]
          exact .plain hnone

/-! ## Regrouped bodies -/

/-- One change of the words, the bounds or the order of consumable groups. -/
inductive Regroups : List Char → List Char → Prop where
  /-- The words of a group stand in another order or more or less often. -/
  | reword {first second : List Char} (hfirst : IsConsumable first) (hsecond : IsConsumable second)
      (hwords : ∀ word, word ∈ groupWords first ↔ word ∈ groupWords second)
      (before after : List Char) :
      Regroups (grouped before first after) (grouped before second after)
  /-- Two groups with nothing but blanks between them become one. -/
  | merge {first second : List Char} (hfirst : IsConsumable first) (hsecond : IsConsumable second)
      {blanks : List Char} (hblanks : ∀ c ∈ blanks, isBlank c = true) (before after : List Char) :
      Regroups (grouped before first (grouped blanks second after))
        (grouped before (first ++ ',' :: second) after)
  /-- Two groups change places, whatever stands between them. -/
  | swap {first second : List Char} (hfirst : IsConsumable first) (hsecond : IsConsumable second)
      (before middle after : List Char) :
      Regroups (grouped before first (grouped middle second after))
        (grouped before second (grouped middle first after))

/-- The words of contents with a comma between them are those of both. -/
theorem groupWords_append (first second : List Char) :
    groupWords (first ++ ',' :: second) = groupWords first ++ groupWords second := by
  rw [groupWords, List.splitOn_append_cons_self, List.map_append, List.filter_append]
  rfl

/-- With a comma between them, the contents of consumable groups are that of another. -/
theorem IsConsumable.append {first second : List Char} (hfirst : IsConsumable first)
    (hsecond : IsConsumable second) : IsConsumable (first ++ ',' :: second) where
  innermost := by
    intro c hc
    rcases List.mem_append.1 hc with hmem | hmem
    · exact hfirst.innermost c hmem
    · rcases List.mem_cons.1 hmem with rfl | hmem
      · decide
      · exact hsecond.innermost c hmem
  ne_nil := by
    rw [groupWords_append]
    exact List.append_ne_nil_of_left_ne_nil hfirst.ne_nil _
  marks := by
    intro word hword
    rw [groupWords_append, List.mem_append] at hword
    rcases hword with hword | hword
    · exact hfirst.marks word hword
    · exact hsecond.marks word hword

/-- A group is repeated behind itself when it is merged with itself. -/
theorem Regroups.again {content blanks : List Char} (h : IsConsumable content)
    (hblanks : ∀ c ∈ blanks, isBlank c = true) (before after : List Char) :
    Relation.EqvGen Regroups (grouped before content after)
      (grouped before content (grouped blanks content after)) := by
  have hwords (word : List Char) :
      word ∈ groupWords content ↔ word ∈ groupWords (content ++ ',' :: content) := by
    rw [groupWords_append, List.mem_append, or_self]
  exact .trans _ _ _ (.rel _ _ (.reword h (h.append h) hwords before after))
    (.symm _ _ (.rel _ _ (.merge h h hblanks before after)))

/-- What is read of the groups of a body depends on its marks and on the words that remain. -/
theorem takeDecorators_congr {body other : List Char}
    (hmarks : ∀ mark, mark ∈ (pieces body).flatMap Piece.marks ↔
      mark ∈ (pieces other).flatMap Piece.marks)
    (hwords : words ((pieces body).flatMap Piece.remains) =
      words ((pieces other).flatMap Piece.remains)) :
    takeDecorators body = takeDecorators other := by
  have hcontains (mark : Mark) : ((pieces body).flatMap Piece.marks).contains mark =
      ((pieces other).flatMap Piece.marks).contains mark := by
    rw [Bool.eq_iff_iff, List.contains_iff_mem, List.contains_iff_mem, hmarks]
  have hall : ((pieces body).flatMap Piece.marks).all (· == .inertia) =
      ((pieces other).flatMap Piece.marks).all (· == .inertia) := by
    rw [Bool.eq_iff_iff, List.all_eq_true, List.all_eq_true]
    exact forall_congr' fun mark => by rw [hmarks]
  simp only [takeDecorators, foldl_apply, markedDecorators, hcontains, hall, collapse, hwords]

section Grouped

variable {before content after : List Char} (h : IsConsumable content)
include h

/-- A text with a consumed group sets the marks of the group and of the rest. -/
theorem mem_marks_grouped {mark : Mark} :
    mark ∈ (pieces (grouped before content after)).flatMap Piece.marks ↔
      mark ∈ (pieces before).flatMap Piece.marks ∨ mark.word ∈ groupWords content ∨
        mark ∈ (pieces after).flatMap Piece.marks := by
  rw [pieces_grouped h.innermost, List.flatMap_append, List.flatMap_cons, List.mem_append,
    List.mem_append, h.mem_marks_iff]

/-- The words around a consumed group remain. -/
theorem words_remains_grouped :
    words ((pieces (grouped before content after)).flatMap Piece.remains) =
      words ((pieces before).flatMap Piece.remains) ++
        words ((pieces after).flatMap Piece.remains) := by
  have hspace : isBlank ' ' = true := by decide
  rw [remains_grouped h, words_append_blank hspace]

end Grouped

/-- A change of consumable groups changes nothing that is read of them. -/
theorem Regroups.takeDecorators_eq {body other : List Char} (h : Regroups body other) :
    takeDecorators body = takeDecorators other := by
  cases h with
  | reword hfirst hsecond hwords before after =>
      refine takeDecorators_congr (fun mark => ?_) ?_
      · rw [mem_marks_grouped hfirst, mem_marks_grouped hsecond, hwords]
      · rw [words_remains_grouped hfirst, words_remains_grouped hsecond]
  | merge hfirst hsecond hblanks before after =>
      have hboth := hfirst.append hsecond
      have hchars := pieces_of_not_mem
        (not_mem_of_isNoParenthesis fun c hc => isNoParenthesis_of_isBlank (hblanks c hc))
      refine takeDecorators_congr (fun mark => ?_) ?_
      · rw [mem_marks_grouped hfirst, mem_marks_grouped hsecond, mem_marks_grouped hboth, hchars,
          marks_map_char, groupWords_append, List.mem_append]
        simp only [List.not_mem_nil, false_or, or_assoc]
      · rw [words_remains_grouped hfirst, words_remains_grouped hsecond,
          words_remains_grouped hboth, hchars, remains_map_char, words_of_blank hblanks,
          List.nil_append]
  | swap hfirst hsecond before middle after =>
      refine takeDecorators_congr (fun mark => ?_) ?_
      · rw [mem_marks_grouped hfirst, mem_marks_grouped hsecond, mem_marks_grouped hsecond,
          mem_marks_grouped hfirst]
        tauto
      · rw [words_remains_grouped hfirst, words_remains_grouped hsecond,
          words_remains_grouped hsecond, words_remains_grouped hfirst]

/-- Changes of consumable groups, one after the other and in either direction, change nothing. -/
theorem takeDecorators_regrouped {body other : List Char}
    (h : Relation.EqvGen Regroups body other) : takeDecorators body = takeDecorators other := by
  induction h with
  | rel _ _ hstep => exact hstep.takeDecorators_eq
  | refl _ => rfl
  | symm _ _ _ ih => exact ih.symm
  | trans _ _ _ _ _ hfirst hsecond => exact hfirst.trans hsecond

/-! ## What the groups of a body say -/

/-- The groups of a body set the flags of their words, each on its own, and leave spaces; how the
words and the groups are arranged does not matter. -/
structure SetsFlags (body : List Char) : Prop where
  /-- There are flags only if the word of a decorator stands in a consumable group. -/
  decorators_eq_none_iff : (takeDecorators body).decorators = none ↔
    ∀ content, Consumes body content →
      ∀ decorator : Decorator, decorator.word.toList ∉ groupWords content
  /-- A flag is set exactly if the word of its decorator does. -/
  has_iff : ∀ flags, (takeDecorators body).decorators = some flags →
    ∀ decorator : Decorator, flags.has decorator = true ↔
      ∃ content, Consumes body content ∧ decorator.word.toList ∈ groupWords content
  inertia_iff : (takeDecorators body).inertia = true ↔
    ∃ content, Consumes body content ∧ "inertia".toList ∈ groupWords content
  /-- The rest is the cleared body, without blanks at its ends and with single spaces in it. -/
  rest_eq : ∃ cleared, Cleared body cleared ∧ (takeDecorators body).rest = collapse cleared
  cleared_unique : ∀ first second, Cleared body first → Cleared body second → first = second
  /-- Nothing changes when consumable groups are changed, in either direction and often. -/
  regrouped : ∀ other, Relation.EqvGen Regroups body other →
    takeDecorators body = takeDecorators other

/-- No decorators are set exactly when no mark is a decorator. -/
theorem markedDecorators_eq_none_iff {marks : List Mark} :
    markedDecorators marks = none ↔ ∀ decorator, .decorator decorator ∉ marks := by
  have hnone : markedDecorators marks = none ↔ ∀ mark ∈ marks, mark = .inertia := by
    rw [markedDecorators]
    split
    · rename_i h
      simpa using h
    · rename_i h
      simpa using h
  rw [hnone]
  constructor
  · intro h decorator hmem
    cases h _ hmem
  · intro h mark hmem
    cases mark with
    | decorator decorator => exact absurd hmem (h decorator)
    | inertia => rfl

/-- The groups of every body set flags. -/
theorem groups_setFlags (body : List Char) : SetsFlags body := by
  have hdecorators : (takeDecorators body).decorators =
      markedDecorators ((pieces body).flatMap Piece.marks) := foldl_apply _
  have hword (decorator : Decorator) :
      .decorator decorator ∈ (pieces body).flatMap Piece.marks ↔
        ∃ content, Consumes body content ∧ decorator.word.toList ∈ groupWords content :=
    mem_marks_pieces_iff
  exact {
    decorators_eq_none_iff := by
      simp only [hdecorators, markedDecorators_eq_none_iff, hword]
      exact ⟨fun h content hcontent decorator hmem => h decorator ⟨content, hcontent, hmem⟩,
        fun h decorator ⟨content, hcontent, hmem⟩ => h content hcontent decorator hmem⟩
    has_iff := by
      intro flags hflags decorator
      rw [hdecorators, markedDecorators] at hflags
      split at hflags
      · cases hflags
      · cases hflags
        rw [Decorators.has_ofHas, List.contains_iff_mem, hword]
    inertia_iff := by
      rw [takeDecorators, List.contains_iff_mem]
      exact mem_marks_pieces_iff
    rest_eq := ⟨_, cleared_iff.2 rfl, rfl⟩
    cleared_unique := fun first second hfirst hsecond =>
      (cleared_iff.1 hfirst).trans (cleared_iff.1 hsecond).symm
    regrouped := fun _ => takeDecorators_regrouped }

/-- Groups that are parted, change places and are repeated around a text in parentheses. -/
theorem groups_setFlags_arranged :
    takeDecorators "Tea (buy) (GPU) (market,inertia)".toList =
      takeDecorators "Tea (market) (inertia) (GPU) (buy)(buy)".toList := by
  have hbuy : IsConsumable "buy".toList := by decide
  have hmarket : IsConsumable "market".toList := by decide
  have hinertia : IsConsumable "inertia".toList := by decide
  have hboth : IsConsumable "market,inertia".toList := by decide
  have hswap : Regroups "Tea (buy) (GPU) (market,inertia)".toList
      "Tea (market,inertia) (GPU) (buy)".toList :=
    .swap hbuy hboth "Tea ".toList " (GPU) ".toList []
  have hmerge : Regroups "Tea (market) (inertia) (GPU) (buy)".toList
      "Tea (market,inertia) (GPU) (buy)".toList :=
    .merge hmarket hinertia isBlank_of_mem_space "Tea ".toList " (GPU) (buy)".toList
  have hnone : ∀ c ∈ ([] : List Char), isBlank c = true := List.forall_mem_nil _
  have hagain : Relation.EqvGen Regroups "Tea (market) (inertia) (GPU) (buy)".toList
      "Tea (market) (inertia) (GPU) (buy)(buy)".toList :=
    Regroups.again hbuy hnone "Tea (market) (inertia) (GPU) ".toList []
  exact (groups_setFlags _).regrouped _
    (.trans _ _ _ (.rel _ _ hswap) (.trans _ _ _ (.symm _ _ (.rel _ _ hmerge)) hagain))

end Notation
end Wardley
