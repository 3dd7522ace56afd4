import Wardley.Proofs.Construct.Annotations
import Wardley.Proofs.Notation.WrittenElements
import Wardley.Proofs.Numeric.Whole

/-!
# Notes and annotations as they are written

An annotation is written as a number, its places and a text; a note as a text and its place.
The places stand next to a text that may hold any brackets.  They are read back all the same,
because the places of an annotation end at the first closing brackets of their form, and the
place of a note begins at the last opening bracket.

Main definitions:

- `WrittenPlaces`: a place in brackets, or a list of such places.
- `WrittenAnnotation`, `WrittenNote`: the parts of written remarks.

Main results:

- `bracketGroups_listText`: the groups of a list are its places.
- `splitPlaces_text`: the places are told from the text behind them.
- `splitFinalBrackets?_append`: the place of a note is told from the text before it.
- `read_remarks`: written annotations and notes among other lines are read back.
-/

namespace Wardley

open Construct Notation Text

/-! ## Written places -/

/-- The numerals of visibility and maturity. -/
abbrev WrittenPlace := Numeral × Numeral

namespace WrittenPlace

/-- The numerals without the brackets. -/
def content (place : WrittenPlace) : List Char := pairText place.1 place.2

/-- A place in brackets. -/
def text (place : WrittenPlace) : List Char := '[' :: (place.content ++ [']'])

/-- The place that is written. -/
def occurrence (place : WrittenPlace) : Occurrence :=
  ⟨.float place.1.value, .float place.2.value⟩

variable (place : WrittenPlace)

/-- The content of a place holds no bracket. -/
theorem isNoBracket_content : ∀ c ∈ place.content, isNoBracket c = true :=
  isNoBracket_of_mem_pairText place.1 place.2

/-- The content of a place is read as its occurrence. -/
theorem readOccurrence_content : readOccurrence place.content = .ok place.occurrence := by
  rw [readOccurrence, content, readPair_pairText]
  rfl

/-- Only the last character of a place is a closing bracket. -/
theorem not_isInfix_text : ¬ [']', ']'] <:+: place.text := by
  have hnone : ']' ∉ '[' :: place.content := by
    rw [List.mem_cons, not_or]
    exact ⟨by decide, not_mem_pairText (by decide) (by decide) place.1 place.2⟩
  rw [text, ← List.cons_append, pair_isInfix_append]
  rintro (hin | hin | ⟨hlast, -⟩)
  · exact hnone (hin.subset List.mem_cons_self)
  · exact absurd hin.length_le (by simp)
  · exact hnone (List.mem_of_mem_getLast? hlast)

end WrittenPlace

/-! ## Lists of places -/

/-- Places with commas between them. -/
def listText (places : List WrittenPlace) : List Char :=
  List.intercalate [',', ' '] (places.map WrittenPlace.text)

@[simp]
theorem listText_singleton (place : WrittenPlace) : listText [place] = place.text :=
  List.intercalate_singleton

theorem listText_cons (place : WrittenPlace) {places : List WrittenPlace} (hne : places ≠ []) :
    listText (place :: places) = place.text ++ (',' :: ' ' :: listText places) := by
  have hmap : places.map WrittenPlace.text ≠ [] := by simpa using hne
  rw [listText, List.map_cons, List.intercalate_cons_of_ne_nil hmap, List.append_assoc]
  rfl

/-- The groups of a list are its places. -/
theorem bracketGroups_listText (places : List WrittenPlace) :
    bracketGroups (listText places) = places.map WrittenPlace.content := by
  induction places with
  | nil => rfl
  | cons place others ih =>
      have hgroup (after : List Char) :
          bracketGroups (place.text ++ after) = place.content :: bracketGroups after := by
        rw [WrittenPlace.text, List.cons_append, List.append_assoc]
        exact bracketGroups_group place.isNoBracket_content after
      by_cases hothers : others = []
      · subst hothers
        have hlast := hgroup []
        rwa [List.append_nil, ← listText_singleton] at hlast
      · have hseparator : bracketGroups (',' :: ' ' :: listText others) =
            bracketGroups (listText others) := by
          have hplain : '[' ∉ [',', ' '] := by decide
          exact bracketGroups_append hplain (listText others)
        rw [listText_cons place hothers, hgroup, hseparator, ih, List.map_cons]

/-- Closing brackets do not meet within a list. -/
theorem not_isInfix_listText (places : List WrittenPlace) : ¬ [']', ']'] <:+: listText places := by
  induction places with
  | nil => decide
  | cons place others ih =>
      by_cases hothers : others = []
      · subst hothers
        rw [listText_singleton]
        exact place.not_isInfix_text
      · rw [listText_cons place hothers, pair_isInfix_append, List.infix_cons_iff,
          List.infix_cons_iff]
        rintro (hin | (hcomma | hspace | hin) | ⟨-, hhead⟩)
        · exact place.not_isInfix_text hin
        · exact absurd (List.cons_prefix_cons.1 hcomma).1 (by decide)
        · exact absurd (List.cons_prefix_cons.1 hspace).1 (by decide)
        · exact ih hin
        · exact absurd (Option.some.inj hhead) (by decide)

/-- The first place of a list opens it and the last place closes it. -/
theorem exists_listText {places : List WrittenPlace} (hne : places ≠ []) :
    ∃ inner, listText places = '[' :: (inner ++ [']']) := by
  induction places with
  | nil => contradiction
  | cons place others ih =>
      by_cases hothers : others = []
      · subst hothers
        exact ⟨place.content, listText_singleton place⟩
      · rcases ih hothers with ⟨inner, hinner⟩
        refine ⟨place.content ++ ']' :: ',' :: ' ' :: '[' :: inner, ?_⟩
        rw [listText_cons place hothers, hinner, WrittenPlace.text]
        simp

/-- The places of an annotation: one in brackets, or a list of them. -/
inductive WrittenPlaces where
  | one (place : WrittenPlace)
  | list (first : WrittenPlace) (others : List WrittenPlace)

namespace WrittenPlaces

/-- The places in their order. -/
def places : WrittenPlaces → List WrittenPlace
  | one place => [place]
  | list first others => first :: others

/-- The places as they are written. -/
def text : WrittenPlaces → List Char
  | one place => place.text
  | list first others => '[' :: (listText (first :: others) ++ [']'])

/-- The places are told from the text behind them. -/
theorem splitPlaces_text (written : WrittenPlaces) (behind : List Char) :
    splitPlaces (written.text ++ behind) =
      .ok (written.places.map WrittenPlace.content, behind) := by
  cases written with
  | one place =>
      rw [text, WrittenPlace.text, List.cons_append, List.append_assoc]
      exact splitPlaces_one place.isNoBracket_content behind
  | list first others =>
      rcases exists_listText (List.cons_ne_nil first others) with ⟨inner, hinner⟩
      have hdouble := not_isInfix_listText (first :: others)
      have hgroups := bracketGroups_listText (first :: others)
      rw [hinner] at hdouble hgroups
      have hsplit := splitPlaces_list hdouble behind
      rw [hgroups] at hsplit
      have htext : (list first others).text ++ behind =
          '[' :: '[' :: (inner ++ ']' :: ']' :: behind) := by
        rw [text, hinner]
        simp
      rw [htext]
      exact hsplit

/-- The contents of places are read as their occurrences. -/
theorem mapM_readOccurrence (written : WrittenPlaces) :
    (written.places.map WrittenPlace.content).mapM readOccurrence =
      .ok (written.places.map WrittenPlace.occurrence) := by
  rw [mapM_eq_ok_iff, List.forall₂_map_left_iff, List.forall₂_map_right_iff, List.forall₂_same]
  exact fun place _ => place.readOccurrence_content

/-- The places begin and end with a bracket. -/
theorem exists_text (written : WrittenPlaces) :
    ∃ inner, written.text = '[' :: (inner ++ [']']) := by
  cases written with
  | one place => exact ⟨_, rfl⟩
  | list first others => exact ⟨_, rfl⟩

end WrittenPlaces

/-! ## Written annotations -/

/-- The parts of a written annotation. -/
structure WrittenAnnotation where
  number : Numeral
  places : WrittenPlaces
  text : List Char := []

namespace WrittenAnnotation

/-- The line of a written annotation. -/
def line (written : WrittenAnnotation) : List Char :=
  keywordLine "annotation"
    (written.number.text ++ ' ' :: (written.places.text ++ ' ' :: written.text))

/-- The annotation that is written on a line, with the value of its number. -/
def annotation (written : WrittenAnnotation) (number : Int) (line : Nat) : Annotation where
  number := .int number
  text := String.ofList written.text
  occurrences := written.places.places.map WrittenPlace.occurrence
  line := some (.int line)

variable (written : WrittenAnnotation)

/-- The number of an annotation consists of number characters. -/
theorem isNumberChar_number : ∀ c ∈ written.number.text, isNumberChar c = true := by
  intro c hc
  have hbracket : c ≠ '[' := by
    rintro rfl
    exact written.number.not_mem_text (by decide) hc
  simp [isNumberChar, written.number.isBlank_of_mem_text hc, hbracket]

/-- The body of an annotation loses at most the blanks before its text. -/
theorem trim_body :
    trim (written.number.text ++ ' ' :: (written.places.text ++ ' ' :: written.text)) =
      written.number.text ++ ([' '] ++ (written.places.text ++ trimEnd (' ' :: written.text))) := by
  rcases written.places.exists_text with ⟨inner, hinner⟩
  have hlast : trim [']'] = [']'] := by decide
  have hfront := trim_between written.number.trim_text written.number.text_ne_nil hlast
    (by decide) (' ' :: '[' :: inner)
  have htrim := trim_append hfront (List.append_ne_nil_of_left_ne_nil written.number.text_ne_nil _)
    (' ' :: written.text)
  rw [hinner]
  simpa using htrim

/-- The line of an annotation declares its body. -/
theorem keywordBody?_line {indent : List Char} (hindent : ∀ c ∈ indent, isBlank c = true) :
    ∃ tail, written.places.text ++ trimEnd (' ' :: written.text) = '[' :: tail ∧
      keywordBody? "annotation".toList (indent ++ written.line) =
        some (written.number.text ++ ([' '] ++ '[' :: tail)) := by
  have hkeyword : IsKeyword "annotation" := isKeyword_reservedKeywords _ (by decide)
  rcases written.places.exists_text with ⟨inner, hinner⟩
  refine ⟨inner ++ ']' :: trimEnd (' ' :: written.text), by simp [hinner], ?_⟩
  rw [line, keywordBody?_keywordLine hkeyword hindent, trim_body, hinner]
  simp

variable {written}

/-- An annotation whose number is whole is read back. -/
theorem adds_annotation (htext : trim written.text = written.text) {indent : List Char}
    (hindent : ∀ c ∈ indent, isBlank c = true) {number : Int}
    (hnumber : written.number.value.compareInt number = some .eq) :
    Adds annotations (indent ++ written.line) fun line =>
      ⟨[written.annotation number line], []⟩ := by
  rcases written.keywordBody?_line hindent with ⟨tail, htail, hbody⟩
  have hsplit := written.places.splitPlaces_text (trimEnd (' ' :: written.text))
  rw [htail] at hsplit
  rcases Double.compareInt_eq_iff.1 hnumber with ⟨hwhole, hvalue⟩
  have hne : written.places.places.map WrittenPlace.content ≠ [] := by
    cases written.places <;> exact List.cons_ne_nil _ _
  refine adds_record hbody fun line => ?_
  rw [readAnnotation_eq_ok_iff written.isNumberChar_number isBlank_of_mem_space hsplit]
  refine ⟨_, written.number.numeral?_text, hwhole, hne, _, written.places.mapM_readOccurrence, ?_⟩
  rw [trim_trimEnd_eq, trim_cons_blank (by decide), htext, annotation, ← hvalue]

/-- An annotation whose number is not whole gives a diagnostic. -/
theorem adds_diagnostic {indent : List Char} (hindent : ∀ c ∈ indent, isBlank c = true)
    (hnumber : ∀ number : Int, written.number.value.compareInt number ≠ some .eq) :
    Adds annotations (indent ++ written.line) fun line =>
      ⟨[], [(Fault.fractionalAnnotationNumber (String.ofList written.number.text)).diagnostic
        line]⟩ := by
  rcases written.keywordBody?_line hindent with ⟨tail, -, hbody⟩
  have hwhole : written.number.value.isWhole = false := by
    rw [Bool.eq_false_iff, Ne, Double.isWhole_iff]
    rintro ⟨number, hequal⟩
    exact hnumber number hequal
  exact adds_fault hbody fun line => readAnnotation_of_fraction written.isNumberChar_number
    isBlank_of_mem_space written.number.numeral?_text hwhole tail line "annotation"

end WrittenAnnotation

/-! ## Written notes -/

/-- The parts of a written note. -/
structure WrittenNote where
  text : List Char
  place : WrittenPlace

namespace WrittenNote

/-- The line of a written note. -/
def line (written : WrittenNote) : List Char :=
  keywordLine "note" (written.text ++ ' ' :: written.place.text)

/-- The note that is written on a line. -/
def note (written : WrittenNote) (line : Nat) : Note where
  text := String.ofList written.text
  visibility := written.place.occurrence.visibility
  maturity := written.place.occurrence.maturity
  line := some (.int line)

end WrittenNote

/-- The place at the end is told from the text before it. -/
theorem splitFinalBrackets?_append {content : List Char}
    (hcontent : ∀ c ∈ content, isNoBracket c = true) (before : List Char) :
    splitFinalBrackets? (before ++ '[' :: (content ++ [']'])) = some (before, content) := by
  have hplain : ∀ c ∈ content.reverse, isNoBracket c = true :=
    fun c hc => hcontent c (List.mem_reverse.1 hc)
  have hbracket : ¬ isNoBracket '[' = true := by decide
  have hreverse : (before ++ '[' :: (content ++ [']'])).reverse =
      ']' :: (content.reverse ++ '[' :: before.reverse) := by simp
  have hdrop : (content.reverse ++ '[' :: before.reverse).dropWhile isNoBracket =
      '[' :: before.reverse := by
    rw [List.dropWhile_append_of_pos hplain, List.dropWhile_cons_of_neg hbracket]
  have htake : (content.reverse ++ '[' :: before.reverse).takeWhile isNoBracket =
      content.reverse := by
    rw [List.takeWhile_append_of_pos hplain, List.takeWhile_cons_of_neg hbracket, List.append_nil]
  rw [splitFinalBrackets?, hreverse]
  simp only [hdrop, htake, List.reverse_reverse]

/-- A note is read back. -/
theorem WrittenNote.adds_note {written : WrittenNote} (hne : written.text ≠ [])
    (htext : trim written.text = written.text) {indent : List Char}
    (hindent : ∀ c ∈ indent, isBlank c = true) :
    Adds notes (indent ++ written.line) fun line => ⟨[written.note line], []⟩ := by
  have hkeyword : IsKeyword "note" := isKeyword_reservedKeywords _ (by decide)
  have hlast : trim [']'] = [']'] := by decide
  have hbody := keywordBody?_keywordLine hkeyword hindent
    (written.text ++ ' ' :: written.place.text)
  have htrim := trim_between htext hne hlast (by decide) (' ' :: '[' :: written.place.content)
  rw [List.cons_append, List.cons_append] at htrim
  rw [WrittenPlace.text, htrim] at hbody
  have hsplit := splitFinalBrackets?_append written.place.isNoBracket_content
    (written.text ++ [' '])
  rw [List.append_assoc, List.singleton_append] at hsplit
  have hname : trim (written.text ++ [' ']) = written.text := by
    rw [trim_append_blank isBlank_of_mem_space, htext]
  refine adds_record hbody fun line => ?_
  rw [readNote, hsplit]
  dsimp only
  rw [hname, List.isEmpty_eq_false_iff.2 hne, WrittenPlace.content, readPair_pairText]
  rfl

/-! ## Written remarks -/

/-- Written annotations and notes are read back, whatever brackets their texts hold. -/
theorem read_remarks {indent : List Char} (hindent : ∀ c ∈ indent, isBlank c = true) :
    (∀ written : WrittenAnnotation, trim written.text = written.text →
      (∀ number : Int, written.number.value.compareInt number = some .eq →
        Adds annotations (indent ++ written.line) fun line =>
          ⟨[written.annotation number line], []⟩) ∧
      ((∀ number : Int, written.number.value.compareInt number ≠ some .eq) →
        Adds annotations (indent ++ written.line) fun line =>
          ⟨[], [(Fault.fractionalAnnotationNumber
            (String.ofList written.number.text)).diagnostic line]⟩)) ∧
    ∀ written : WrittenNote, written.text ≠ [] → trim written.text = written.text →
      Adds notes (indent ++ written.line) fun line => ⟨[written.note line], []⟩ :=
  ⟨fun _ htext => ⟨fun _ hnumber => WrittenAnnotation.adds_annotation htext hindent hnumber,
      fun hnumber => WrittenAnnotation.adds_diagnostic hindent hnumber⟩,
    fun _ hne htext => WrittenNote.adds_note hne htext hindent⟩

theorem read_remarks_harvest :
    -- two places, with a text that looks like places
    let harvest : WrittenAnnotation :=
      { number :=
          { sign := ['+'], whole := ['1']
            exponent := some { letter := 'e', sign := [], digits := ['1'] } }
        places := .list ({ sign := [], whole := ['0'] }, { sign := [], whole := ['1'] })
          [({ sign := [], whole := [], fraction := some ['5'] }, { sign := ['-'], whole := ['2'] })]
        text := "see [[1, 2]] and ]]".toList }
    -- a place under a number that is not whole
    let pause : WrittenAnnotation :=
      { number := { sign := [], whole := ['2'], fraction := some ['5'] }
        places := .one ({ sign := [], whole := ['0'] }, { sign := [], whole := ['1'] }) }
    harvest.number.value.compareInt 10 = some .eq ∧
      (∀ number : Int, pause.number.value.compareInt number ≠ some .eq) ∧
      annotations (numbered (["title Tea".toList] ++
          " annotation +1e1 [[0, 1], [.5, -2]] see [[1, 2]] and ]]".toList :: [])) =
        ⟨[{ number := .int 10
            text := "see [[1, 2]] and ]]"
            occurrences := [⟨.float (.ofDecimal ⟨false, 0, 0⟩), .float (.ofDecimal ⟨false, 1, 0⟩)⟩,
              ⟨.float (.ofDecimal ⟨false, 5, -1⟩), .float (.ofDecimal ⟨true, 2, 0⟩)⟩]
            line := some (.int 2) }], []⟩ ∧
      annotations (numbered ([] ++ " annotation 2.5 [0, 1] ".toList :: [])) =
        ⟨[], [(Fault.fractionalAnnotationNumber "2.5").diagnostic 1]⟩ ∧
      notes (numbered ([] ++ " note buy [tea] [0, 1] [3, 4]".toList :: [])) =
        ⟨[⟨"buy [tea] [0, 1]", .float (.ofDecimal ⟨false, 3, 0⟩),
          .float (.ofDecimal ⟨false, 4, 0⟩), some (.int 1)⟩], []⟩ := by
  intro harvest pause
  have hnumber : harvest.number.value.compareInt 10 = some .eq := by decide
  have hpause : ∀ number : Int, pause.number.value.compareInt number ≠ some .eq := by
    have hwhole : pause.number.value.isWhole = false := by decide
    intro number hequal
    rw [(Double.compareInt_eq_iff.1 hequal).1] at hwhole
    cases hwhole
  rcases read_remarks isBlank_of_mem_space with ⟨hmarked, hnote⟩
  -- the text of the note ends in what looks like a place
  have hreminder := hnote
    { text := "buy [tea] [0, 1]".toList
      place := ({ sign := [], whole := ['3'] }, { sign := [], whole := ['4'] }) }
    (by decide) (by decide) [] []
  exact ⟨hnumber, hpause, (hmarked harvest (by decide)).1 10 hnumber ["title Tea".toList] [],
    (hmarked pause (by decide)).2 hpause [] [], hreminder⟩

end Wardley
