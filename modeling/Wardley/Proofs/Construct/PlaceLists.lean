import Wardley.Proofs.Construct.Annotations
import Wardley.Proofs.Numeric.Whole
import Wardley.Proofs.Text.Lines

/-!
# Lists of places

The places of a list are its bracket groups, whatever stands between them.  A list with a
group that is no pair of numbers gives a diagnostic; anything else that is no place, such as a
number without brackets, is passed over.

Main definitions:

- `GroupedText`: a text as bracket groups with gaps around them.
- `GroupedText.IsSeparated`: commas stand between the groups and nothing else in the gaps.
- `IsPlace`: a text is the pair of numbers of a place.
- `OpensList`, `IsListed`: an annotation line with a list of places.
- `Marks`: the number and the places of an annotation.
- `AddsAnnotation`, `AddsDiagnostic`: what an annotation line adds.

Main results:

- `exists_grouped`, `bracketGroups_text`: every text has bracket groups and gaps, and the
  groups are those that are read.
- `readOccurrence_eq_ok_iff`: the places that are read.
- `IsListed.diagnosed_iff`: when all lists are diagnosed that are no lists of pairs.
- `annotations_listed`: what a line with a list of places adds.
-/

namespace Wardley

open Construct Notation Text

/-! ## Groups and gaps -/

/-- A bracket group without inner brackets lies in the text. -/
def HasGroup (text : List Char) : Prop :=
  ∃ before content after, (∀ c ∈ content, isNoBracket c = true) ∧
    text = before ++ '[' :: (content ++ ']' :: after)

/-- A gap and bracket groups with a gap behind each. -/
structure GroupedText where
  gap : List Char
  groups : List (List Char × List Char) := []

namespace GroupedText

/-- The text without its first gap. -/
def groupsText (groups : List (List Char × List Char)) : List Char :=
  groups.flatMap fun group => '[' :: (group.1 ++ ']' :: group.2)

/-- The groups and the gaps in their order. -/
def text (grouped : GroupedText) : List Char := grouped.gap ++ groupsText grouped.groups

/-- The texts in the brackets. -/
def contents (grouped : GroupedText) : List (List Char) := grouped.groups.map Prod.fst

/-- Commas stand between the groups, and nothing else but blanks stands in the gaps. -/
structure IsSeparated (grouped : GroupedText) : Prop where
  first : trim grouped.gap = []
  between : ∀ gap ∈ (grouped.groups.map Prod.snd).dropLast, trim gap = [',']
  last : ∀ gap ∈ (grouped.groups.map Prod.snd).getLast?, trim gap = []

/-- No group lies in a gap, and no bracket in a group. -/
structure IsGrouped (grouped : GroupedText) : Prop where
  gap : ¬ HasGroup grouped.gap
  gaps : ∀ group ∈ grouped.groups, ¬ HasGroup group.2
  plain : ∀ group ∈ grouped.groups, ∀ c ∈ group.1, isNoBracket c = true

end GroupedText

theorem not_hasGroup_of_not_mem {text : List Char} (h : '[' ∉ text) : ¬ HasGroup text := by
  rintro ⟨before, content, after, -, rfl⟩
  simp at h

/-- Gaps in which no bracket opens hold no group. -/
theorem GroupedText.isGrouped_of_plain {grouped : GroupedText} (hgap : '[' ∉ grouped.gap)
    (hgroups : ∀ group ∈ grouped.groups, '[' ∉ group.2 ∧ group.1.all isNoBracket = true) :
    grouped.IsGrouped where
  gap := not_hasGroup_of_not_mem hgap
  gaps group hgroup := not_hasGroup_of_not_mem (hgroups group hgroup).1
  plain group hgroup := List.all_eq_true.1 (hgroups group hgroup).2

/-- A group begins a text or lies behind its first character. -/
theorem hasGroup_cons_iff {c : Char} {rest : List Char} :
    HasGroup (c :: rest) ↔ takeBrackets? (c :: rest) ≠ none ∨ HasGroup rest := by
  constructor
  · rintro ⟨before, content, after, hplain, htext⟩
    cases before with
    | nil =>
        left
        rw [htext, List.nil_append, takeBrackets?_group hplain]
        simp
    | cons d before =>
        right
        exact ⟨before, content, after, hplain, (List.cons.inj htext).2⟩
  · rintro (hhere | ⟨before, content, after, hplain, rfl⟩)
    · rcases Option.ne_none_iff_exists'.1 hhere with ⟨⟨content, after⟩, hsome⟩
      rcases takeBrackets?_eq_some_iff.1 hsome with ⟨htext, hplain⟩
      exact ⟨[], content, after, hplain, htext⟩
    · exact ⟨c :: before, content, after, hplain, rfl⟩

/-- Where no group begins, none begins either when a bracket opens behind. -/
theorem takeBrackets?_append_eq_none {c : Char} {text rest : List Char}
    (hnone : takeBrackets? (c :: text) = none) (hrest : ∀ d ∈ rest.head?, d = '[') :
    takeBrackets? (c :: (text ++ rest)) = none := by
  rw [Option.eq_none_iff_forall_not_mem]
  rintro ⟨content, after⟩ hsome
  rcases takeBrackets?_eq_some_iff.1 hsome with ⟨htext, hplain⟩
  obtain ⟨rfl, htail⟩ := List.cons.inj htext
  rcases List.append_eq_append_iff.1 htail with ⟨more, rfl, rfl⟩ | ⟨more, rfl, hbehind⟩
  · -- the bracket behind would lie in the group or close it
    cases more with
    | nil => exact absurd (hrest ']' rfl) (by decide)
    | cons d more =>
        obtain rfl : d = '[' := hrest d rfl
        exact (forall_isNoBracket_iff.1 hplain).1 (by simp)
  · cases more with
    | nil =>
        obtain rfl : ']' :: after = rest := hbehind
        exact absurd (hrest ']' rfl) (by decide)
    | cons d more =>
        obtain rfl : ']' = d := (List.cons.inj hbehind).1
        rw [takeBrackets?_group hplain] at hnone
        cases hnone

/-- Gaps hold no group that is read. -/
theorem bracketGroups_gap {gap rest : List Char} (hgap : ¬ HasGroup gap)
    (hrest : ∀ c ∈ rest.head?, c = '[') : bracketGroups (gap ++ rest) = bracketGroups rest := by
  induction gap with
  | nil => rfl
  | cons c gap ih =>
      rw [hasGroup_cons_iff, not_or, not_not] at hgap
      rw [List.cons_append, bracketGroups, takeBrackets?_append_eq_none hgap.1 hrest, ih hgap.2]

namespace GroupedText

theorem head?_groupsText (groups : List (List Char × List Char)) :
    ∀ c ∈ (groupsText groups).head?, c = '[' := by
  intro c hc
  cases groups with
  | nil => cases hc
  | cons group others =>
      cases hc
      rfl

/-- The groups of a text are those that are read. -/
theorem bracketGroups_text {grouped : GroupedText} (h : grouped.IsGrouped) :
    bracketGroups grouped.text = grouped.contents := by
  rcases grouped with ⟨gap, groups⟩
  rcases h with ⟨hgap, hgaps, hplain⟩
  rw [text, bracketGroups_gap hgap (head?_groupsText groups)]
  dsimp only at hgaps hplain
  rw [contents]
  dsimp only
  clear hgap
  induction groups with
  | nil => rfl
  | cons group others ih =>
      rcases List.forall_mem_cons.1 hgaps with ⟨hbehind, hlater⟩
      rcases List.forall_mem_cons.1 hplain with ⟨hcontent, hothers⟩
      have htext : groupsText (group :: others) =
          '[' :: (group.1 ++ ']' :: (group.2 ++ groupsText others)) := by
        simp [groupsText]
      rw [htext, bracketGroups_group hcontent, bracketGroups_gap hbehind (head?_groupsText others),
        ih hlater hothers, List.map_cons]

end GroupedText

/-- Every text is made of groups and gaps. -/
theorem exists_grouped (text : List Char) :
    ∃ grouped : GroupedText, grouped.IsGrouped ∧ grouped.text = text := by
  match text with
  | [] => exact ⟨⟨[], []⟩, ⟨not_hasGroup_of_not_mem List.not_mem_nil, by simp, by simp⟩, rfl⟩
  | c :: rest =>
      cases hhere : takeBrackets? (c :: rest) with
      | some group =>
          rcases group with ⟨content, after⟩
          rcases takeBrackets?_eq_some_iff.1 hhere with ⟨htext, hplain⟩
          have hshorter : after.length < rest.length + 1 := by
            rw [← List.length_cons (a := c), htext]
            simp
            omega
          rcases exists_grouped after with ⟨grouped, ⟨hgap, hgaps, hothers⟩, rfl⟩
          refine ⟨⟨[], (content, grouped.gap) :: grouped.groups⟩,
            ⟨not_hasGroup_of_not_mem List.not_mem_nil, List.forall_mem_cons.2 ⟨hgap, hgaps⟩,
              List.forall_mem_cons.2 ⟨hplain, hothers⟩⟩, ?_⟩
          rw [htext]
          simp [GroupedText.text, GroupedText.groupsText]
      | none =>
          rcases exists_grouped rest with ⟨grouped, ⟨hgap, hgaps, hothers⟩, rfl⟩
          refine ⟨⟨c :: grouped.gap, grouped.groups⟩, ⟨?_, hgaps, hothers⟩, rfl⟩
          rw [hasGroup_cons_iff, not_or, not_not]
          refine ⟨?_, hgap⟩
          rw [Option.eq_none_iff_forall_not_mem]
          rintro ⟨content, after⟩ hsome
          rcases takeBrackets?_eq_some_iff.1 hsome with ⟨htext, hplain⟩
          -- a group at the beginning of the gap begins the whole text
          have hwhole : c :: grouped.text = '[' ::
              (content ++ ']' :: (after ++ GroupedText.groupsText grouped.groups)) := by
            rw [GroupedText.text, ← List.cons_append, htext]
            simp
          rw [hwhole, takeBrackets?_group hplain] at hhere
          cases hhere
termination_by text.length

/-! ## Places -/

/-- The text is the pair of numbers of a place. -/
def IsPlace (content : List Char) (place : Occurrence) : Prop :=
  ∃ first second visibility maturity, ',' ∉ first ∧ ',' ∉ second ∧
    content = first ++ ',' :: second ∧ numeral? (trim first) = some visibility ∧
    numeral? (trim second) = some maturity ∧ place = ⟨.float visibility, .float maturity⟩

theorem commaParts_eq_pair_iff {text first second : List Char} :
    commaParts text = [first, second] ↔ (List.splitOn ',' text).map trim = [first, second] := by
  rw [commaParts]
  split
  · rename_i hblank
    rw [hblank]
    simp
  · rfl

/-- The places that are read are the pairs of numbers. -/
theorem readOccurrence_eq_ok_iff {content : List Char} {place : Occurrence} :
    readOccurrence content = .ok place ↔ IsPlace content place := by
  have hnumber (text : List Char) (value : Double) :
      readNumber "coordinate" (trim text) = .ok value ↔ numeral? (trim text) = some value := by
    rw [readNumber, trim_trim]
    cases numeral? (trim text) <;> simp
  constructor
  · intro h
    simp only [readOccurrence, bind_eq_ok, pure_eq_ok] at h
    rcases h with ⟨⟨visibility, maturity⟩, hpair, rfl⟩
    rw [readPair] at hpair
    split at hpair
    · rename_i first second hparts
      rw [commaParts_eq_pair_iff, List.map_eq_cons_iff] at hparts
      rcases hparts with ⟨first, others, hsplit, rfl, hothers⟩
      rcases List.map_eq_singleton_iff.1 hothers with ⟨second, rfl, rfl⟩
      rcases splitOn_eq_pair_iff.1 hsplit with ⟨hfirst, hsecond, rfl⟩
      simp only [bind_eq_ok, pure_eq_ok, hnumber, Prod.mk.injEq] at hpair
      rcases hpair with ⟨_, hvisibility, _, hmaturity, rfl, rfl⟩
      exact ⟨first, second, _, _, hfirst, hsecond, rfl, hvisibility, hmaturity, rfl⟩
    · cases hpair
  · rintro ⟨first, second, visibility, maturity, hfirst, hsecond, rfl, hvisibility, hmaturity, rfl⟩
    have hparts : commaParts (first ++ ',' :: second) = [trim first, trim second] := by
      rw [commaParts_eq_pair_iff, splitOn_eq_pair_iff.2 ⟨hfirst, hsecond, rfl⟩]
      rfl
    rw [readOccurrence, readPair, hparts]
    simp only [(hnumber _ _).2 hvisibility, (hnumber _ _).2 hmaturity]
    rfl

/-! ## Lines with a list of places -/

/-- An annotation line with a number, or what stands in its place, and an opened list. -/
def OpensList (line token tail : List Char) : Prop :=
  (∀ c ∈ token, isNumberChar c = true) ∧ ∃ gap, (∀ c ∈ gap, isBlank c = true) ∧
    keywordBody? "annotation".toList line = some (token ++ (gap ++ '[' :: '[' :: tail))

/-- The list ends at the first two closing brackets, and its text stands behind them. -/
def IsListed (line token list text : List Char) : Prop :=
  ∃ inner, list = '[' :: (inner ++ [']']) ∧ ¬ [']', ']'] <:+: list ∧
    OpensList line token (inner ++ ']' :: ']' :: text)

/-- The line adds an annotation of the number, the text and the places. -/
def AddsAnnotation (line : List Char) (number : Int) (text : List Char)
    (places : List Occurrence) : Prop :=
  Adds annotations line fun n =>
    ⟨[⟨.int number, String.ofList (trim text), places, some (.int n)⟩], []⟩

/-- The line adds no annotation but a diagnostic. -/
def AddsDiagnostic (line : List Char) : Prop :=
  ∃ fault : Nat → Fault, Adds annotations line fun n => ⟨[], [(fault n).diagnostic n]⟩

/-- The number is whole, there are places, and each of them is a pair of numbers. -/
structure Marks (token : List Char) (contents : List (List Char)) (number : Int)
    (places : List Occurrence) : Prop where
  number : ∃ value, numeral? token = some value ∧ value.compareInt number = some .eq
  ne_nil : contents ≠ []
  places : List.Forall₂ IsPlace contents places

/-- The text is a list of pairs of numbers in brackets with commas between them. -/
structure GroupedText.IsPlaceList (grouped : GroupedText) (places : List Occurrence) : Prop where
  separated : grouped.IsSeparated
  ne_nil : grouped.contents ≠ []
  places : List.Forall₂ IsPlace grouped.contents places

/-- A line whose body is not read adds a diagnostic. -/
theorem addsDiagnostic_of_ne_ok {line body : List Char}
    (hbody : keywordBody? "annotation".toList line = some body)
    (hnone : ∀ (n : Nat) (marked : Annotation),
      readAnnotation ⟨n, "annotation", body⟩ ≠ .ok marked) : AddsDiagnostic line := by
  have hfault (n : Nat) := exists_error_of_ne_ok (hnone n)
  choose fault hfault using hfault
  exact ⟨fault, adds_fault hbody hfault⟩

/-- A list that is closed ends at the first two closing brackets. -/
theorem OpensList.exists_listed {line token tail : List Char} (h : OpensList line token tail)
    (hclosed : [']', ']'] <:+: '[' :: '[' :: tail) :
    ∃ list text, IsListed line token list text := by
  cases hbreak : breakAt [']', ']'] ('[' :: '[' :: tail) with
  | none => exact absurd hclosed (breakAt_eq_none_iff.1 hbreak)
  | some parts =>
      rcases parts with ⟨kept, after⟩
      have hfirst := not_isInfix_of_breakAt_doubled hbreak
      have htext := breakAt_append hbreak
      rw [List.append_assoc] at htext
      obtain ⟨inner, rfl, rfl⟩ : ∃ inner, kept = '[' :: '[' :: inner ∧
          tail = inner ++ ']' :: ']' :: after := by
        match kept with
        | [] => exact absurd (List.cons.inj htext).1 (by decide)
        | [c] => exact absurd (List.cons.inj (List.cons.inj htext).2).1 (by decide)
        | c :: d :: inner =>
            simp only [List.cons_append, List.cons.injEq] at htext
            rcases htext with ⟨rfl, rfl, htail⟩
            exact ⟨inner, rfl, by simpa using htail⟩
      refine ⟨'[' :: (inner ++ [']']), after, inner, rfl, ?_, h⟩
      exact fun hin => hfirst (List.infix_cons hin)

/-- A list that is not closed adds a diagnostic. -/
theorem OpensList.addsDiagnostic {line token tail : List Char} (h : OpensList line token tail)
    (hopen : ¬ [']', ']'] <:+: '[' :: '[' :: tail) : AddsDiagnostic line := by
  rcases h with ⟨htoken, gap, hgap, hbody⟩
  have hsplit : splitPlaces ('[' :: '[' :: tail) = .error .unterminatedPositionList := by
    rw [splitPlaces, breakAt_eq_none_iff.2 hopen]
  exact addsDiagnostic_of_ne_ok hbody fun n => readAnnotation_ne_ok htoken hgap hsplit n _

namespace IsListed

variable {line token list text : List Char} (h : IsListed line token list text)
include h

/-- What a line with a list adds depends on its number and its groups. -/
theorem read_iff :
    ∃ body, keywordBody? "annotation".toList line = some body ∧ ∀ (n : Nat) (marked : Annotation),
      readAnnotation ⟨n, "annotation", body⟩ = .ok marked ↔
        ∃ number places, Marks token (bracketGroups list) number places ∧
          marked = ⟨.int number, String.ofList (trim text), places, some (.int n)⟩ := by
  rcases h with ⟨inner, rfl, hdouble, htoken, gap, hgap, hbody⟩
  refine ⟨_, hbody, fun n marked => ?_⟩
  rw [readAnnotation_eq_ok_iff htoken hgap (splitPlaces_list hdouble text)]
  have hplaces (places : List Occurrence) :
      (bracketGroups ('[' :: (inner ++ [']']))).mapM readOccurrence = .ok places ↔
        List.Forall₂ IsPlace (bracketGroups ('[' :: (inner ++ [']']))) places := by
    simp only [mapM_eq_ok_iff, readOccurrence_eq_ok_iff]
  constructor
  · rintro ⟨value, hvalue, hwhole, hne, places, hread, rfl⟩
    exact ⟨value.toInt, places, ⟨⟨value, hvalue, Double.compareInt_eq_iff.2 ⟨hwhole, rfl⟩⟩, hne,
      (hplaces places).1 hread⟩, rfl⟩
  · rintro ⟨number, places, ⟨⟨value, hvalue, hequal⟩, hne, hread⟩, rfl⟩
    rcases Double.compareInt_eq_iff.1 hequal with ⟨hwhole, rfl⟩
    exact ⟨value, hvalue, hwhole, hne, places, (hplaces places).2 hread, rfl⟩

variable {grouped : GroupedText} (hgrouped : grouped.IsGrouped) (htext : grouped.text = list)
include hgrouped htext

/-- Whatever stands in the gaps, the groups are the places. -/
theorem addsAnnotation {number : Int} {places : List Occurrence}
    (hmarks : Marks token grouped.contents number places) :
    AddsAnnotation line number text places := by
  rcases h.read_iff with ⟨body, hbody, hread⟩
  rw [← htext, GroupedText.bracketGroups_text hgrouped] at hread
  exact adds_record hbody fun n => (hread n _).2 ⟨number, places, hmarks, rfl⟩

/-- A group that is no place costs the whole line. -/
theorem addsDiagnostic (hnone : ∀ number places, ¬ Marks token grouped.contents number places) :
    AddsDiagnostic line := by
  rcases h.read_iff with ⟨body, hbody, hread⟩
  rw [← htext, GroupedText.bracketGroups_text hgrouped] at hread
  refine addsDiagnostic_of_ne_ok hbody fun n marked hok => ?_
  rcases (hread n marked).1 hok with ⟨number, places, hmarks, -⟩
  exact hnone number places hmarks

/-- A line that adds an annotation adds no diagnostic. -/
theorem not_addsDiagnostic {number : Int} {places : List Occurrence}
    (hmarks : Marks token grouped.contents number places) : ¬ AddsDiagnostic line := by
  rintro ⟨fault, hfault⟩
  have hequal := (h.addsAnnotation hgrouped htext hmarks [] []).symm.trans (hfault [] [])
  have hrecords : [_] = ([] : List Annotation) := congrArg Outcome.records hequal
  cases hrecords

/-- Everything else than a list of pairs is diagnosed unless only the gaps are at fault. -/
theorem diagnosed_iff :
    ((∀ places, ¬ grouped.IsPlaceList places) → AddsDiagnostic line) ↔
      ∀ number places, Marks token grouped.contents number places → grouped.IsSeparated := by
  constructor
  · intro hdiagnosed number places hmarks
    by_contra hseparated
    exact h.not_addsDiagnostic hgrouped htext hmarks
      (hdiagnosed fun _ hlist => hseparated hlist.separated)
  · intro hseparated hnone
    refine h.addsDiagnostic hgrouped htext fun number places hmarks => ?_
    exact hnone places ⟨hseparated number places hmarks, hmarks.ne_nil, hmarks.places⟩

end IsListed

/--
A line with a list of places adds one annotation, with a place for each bracket group of the
list and whatever stands in the gaps, or one diagnostic.  So what is no list of pairs is
diagnosed unless the gaps are all that is wrong.  A list that is not closed adds a diagnostic.
-/
theorem annotations_listed (line token : List Char) :
    (∀ list text, IsListed line token list text →
      (∃ grouped : GroupedText, grouped.IsGrouped ∧ grouped.text = list) ∧
      ∀ grouped : GroupedText, grouped.IsGrouped → grouped.text = list →
        (∀ number places, Marks token grouped.contents number places →
          AddsAnnotation line number text places) ∧
        ((∀ number places, ¬ Marks token grouped.contents number places) →
          AddsDiagnostic line) ∧
        (((∀ places, ¬ grouped.IsPlaceList places) → AddsDiagnostic line) ↔
          ∀ number places, Marks token grouped.contents number places → grouped.IsSeparated)) ∧
    ∀ tail, OpensList line token tail →
      ([']', ']'] <:+: '[' :: '[' :: tail → ∃ list text, IsListed line token list text) ∧
      (¬ [']', ']'] <:+: '[' :: '[' :: tail → AddsDiagnostic line) := by
  constructor
  · intro list text h
    refine ⟨exists_grouped list, fun grouped hgrouped htext => ⟨?_, ?_, ?_⟩⟩
    · exact fun number places hmarks => h.addsAnnotation hgrouped htext hmarks
    · exact h.addsDiagnostic hgrouped htext
    · exact h.diagnosed_iff hgrouped htext
  · exact fun tail h => ⟨h.exists_listed, h.addsDiagnostic⟩

/-- Places with words and a closing bracket between them. -/
def scattered : GroupedText where
  gap := []
  groups := [("0, 1".toList, " and ".toList), ("2, 3".toList, " ] ".toList), ("4, 5".toList, [])]

/-- A place and half of one. -/
def halved : GroupedText where
  gap := []
  groups := [("0, 1".toList, ", ".toList), ("2".toList, [])]

theorem annotations_listed_scattered :
    scattered.IsGrouped ∧ halved.IsGrouped ∧
      annotations (numbered ([] ++
          "annotation 2 [[0, 1] and [2, 3] ] [4, 5]] a ]] b".toList :: [])) =
        ⟨[⟨.int 2, "a ]] b",
          [⟨.float (.ofDecimal ⟨false, 0, 0⟩), .float (.ofDecimal ⟨false, 1, 0⟩)⟩,
            ⟨.float (.ofDecimal ⟨false, 2, 0⟩), .float (.ofDecimal ⟨false, 3, 0⟩)⟩,
            ⟨.float (.ofDecimal ⟨false, 4, 0⟩), .float (.ofDecimal ⟨false, 5, 0⟩)⟩],
          some (.int 1)⟩], []⟩ ∧
      ∃ fault : Fault, annotations (numbered ([] ++ "annotation 2[[0, 1], [2]]".toList :: [])) =
        ⟨[], [fault.diagnostic 1]⟩ := by
  have hscattered : scattered.IsGrouped := GroupedText.isGrouped_of_plain (by decide) (by decide)
  have hhalved : halved.IsGrouped := GroupedText.isGrouped_of_plain (by decide) (by decide)
  have hdigit : ∀ c ∈ ['2'], isNumberChar c = true := List.all_eq_true.1 (by decide)
  have hlisted : IsListed "annotation 2 [[0, 1] and [2, 3] ] [4, 5]] a ]] b".toList ['2']
      scattered.text " a ]] b".toList :=
    ⟨"0, 1] and [2, 3] ] [4, 5".toList, by decide, by decide, hdigit, [' '],
      isBlank_of_mem_space, by decide⟩
  have hshort : IsListed "annotation 2[[0, 1], [2]]".toList ['2'] halved.text [] :=
    ⟨"0, 1], [2".toList, by decide, by decide, hdigit, [], List.forall_mem_nil _, by decide⟩
  have hmarks : Marks ['2'] scattered.contents 2
      [⟨.float (.ofDecimal ⟨false, 0, 0⟩), .float (.ofDecimal ⟨false, 1, 0⟩)⟩,
        ⟨.float (.ofDecimal ⟨false, 2, 0⟩), .float (.ofDecimal ⟨false, 3, 0⟩)⟩,
        ⟨.float (.ofDecimal ⟨false, 4, 0⟩), .float (.ofDecimal ⟨false, 5, 0⟩)⟩] :=
    { number := ⟨_, rfl, by decide⟩
      ne_nil := List.cons_ne_nil _ _
      places :=
        .cons ⟨['0'], [' ', '1'], _, _, by decide, by decide, rfl, rfl, rfl, rfl⟩
          (.cons ⟨['2'], [' ', '3'], _, _, by decide, by decide, rfl, rfl, rfl, rfl⟩
            (.cons ⟨['4'], [' ', '5'], _, _, by decide, by decide, rfl, rfl, rfl, rfl⟩ .nil)) }
  have hnone (number : Int) (places : List Occurrence) :
      ¬ Marks ['2'] halved.contents number places := by
    intro hmarks
    have hplaces : List.Forall₂ IsPlace ["0, 1".toList, "2".toList] places := hmarks.places
    rcases hplaces with _ | ⟨-, _ | ⟨⟨first, second, -, -, -, -, htext, -⟩, -⟩⟩
    have hcomma : ',' ∈ "2".toList := by
      rw [htext]
      simp
    revert hcomma
    decide
  have hmarked := ((annotations_listed _ _).1 _ _ hlisted).2 scattered hscattered rfl
  rcases (((annotations_listed _ _).1 _ _ hshort).2 halved hhalved rfl).2.1 hnone with
    ⟨fault, hfault⟩
  exact ⟨hscattered, hhalved, hmarked.1 2 _ hmarks [] [], fault 1, hfault [] []⟩

/-- Two places with a number without brackets between them. -/
def interrupted : GroupedText where
  gap := []
  groups := [("0.1, 0.2".toList, ", 0.3, ".toList), ("0.4, 0.5".toList, [])]

/-- A number without brackets between two places is passed over. -/
theorem bare_number_passed_over :
    let line := "annotation 1 [[0.1, 0.2], 0.3, [0.4, 0.5]]".toList
    interrupted.IsGrouped ∧ ¬ interrupted.IsSeparated ∧ IsListed line ['1'] interrupted.text [] ∧
      annotations (numbered [line]) =
        ⟨[⟨.int 1, "",
          [⟨.float (.ofDecimal ⟨false, 1, -1⟩), .float (.ofDecimal ⟨false, 2, -1⟩)⟩,
            ⟨.float (.ofDecimal ⟨false, 4, -1⟩), .float (.ofDecimal ⟨false, 5, -1⟩)⟩],
          some (.int 1)⟩], []⟩ := by
  have hgrouped : interrupted.IsGrouped := GroupedText.isGrouped_of_plain (by decide) (by decide)
  have hseparated : ¬ interrupted.IsSeparated := fun h =>
    absurd (h.between ", 0.3, ".toList (by decide)) (by decide)
  refine ⟨hgrouped, hseparated, ⟨"0.1, 0.2], 0.3, [0.4, 0.5".toList, by decide, by decide,
    List.all_eq_true.1 (by decide), [' '], isBlank_of_mem_space, by decide⟩, ?_⟩
  rfl

end Wardley
