import Wardley.Construct.Regions
import Wardley.Proofs.Notation.NamedPlace
import Wardley.Proofs.Notation.Numerals
import Wardley.Proofs.Text.Patterns

/-!
# Bodies of regions

The body of a region has a bracket group that no bracket precedes, with numbers between commas
in it, a name before it where one is required, and numbers behind it where a size is admitted.
The form is given here without the reading, and the reading takes the bodies of this form and
no others.

Main definitions:

- `AreNumerals`: tokens that denote numbers.
- `GivesCorners`, `GivesSize`: the fields that numbers give.
- `Describes`, `IsRegion`: the regions of bodies.

Main results:

- `splitBrackets?_eq_some_iff`: the body around its first bracket group.
- `readNumbers_eq_ok_iff`, `readSize_eq_ok_iff`: the numbers that are read.
- `readRegion_eq_ok_iff`: the bodies that are read.
-/

namespace Wardley
namespace Construct

open Notation Text

/-! ## Regions of bodies -/

/-- The tokens are numerals and denote the values. -/
def AreNumerals (tokens : List (List Char)) (values : List Double) : Prop :=
  List.Forall₂ (fun token value => numeral? token = some value) tokens values

theorem areNumerals_nil {values : List Double} : AreNumerals [] values ↔ values = [] :=
  List.forall₂_nil_left_iff

theorem areNumerals_cons {token : List Char} {tokens : List (List Char)} {values : List Double} :
    AreNumerals (token :: tokens) values ↔ ∃ value others,
      numeral? token = some value ∧ AreNumerals tokens others ∧ values = value :: others :=
  List.forall₂_cons_left_iff

/-- Two numbers are the place of a region; where corners are admitted, four are two of them. -/
def GivesCorners (options : RegionOptions) (values : List Double) (region : Region) : Prop :=
  (∃ visibility maturity, values = [visibility, maturity] ∧
    region.visibility = .float visibility ∧ region.maturity = .float maturity ∧
    region.visibility2 = none ∧ region.maturity2 = none) ∨
  options.allowCorners = true ∧ ∃ visibility maturity visibility2 maturity2,
    values = [visibility, maturity, visibility2, maturity2] ∧
    region.visibility = .float visibility ∧ region.maturity = .float maturity ∧
    region.visibility2 = some (.float visibility2) ∧ region.maturity2 = some (.float maturity2)

/-- At most two numbers are a width and a height. -/
def GivesSize (values : List Double) (region : Region) : Prop :=
  values.length ≤ 2 ∧ region.width = values[0]?.map Number.float ∧
    region.height = values[1]?.map Number.float

/-- The texts before, in and behind brackets describe a region. -/
structure Describes (options : RegionOptions) (before content after : List Char)
    (region : Region) : Prop where
  named : options.requireName = true → trim before ≠ []
  name : region.name = String.ofList (trim before)
  corners : ∃ values, AreNumerals ((List.splitOn ',' content).map trim) values ∧
    GivesCorners options values region
  size : options.allowSize = true →
    ∃ values, AreNumerals (words after) values ∧ GivesSize values region
  unsized : options.allowSize = false → region.width = none ∧ region.height = none

/--
The region stands on the line of a declaration, and the body describes it around its first
two brackets, of which the first one opens and the second one closes.
-/
structure IsRegion (options : RegionOptions) (declared : Declaration) (region : Region) :
    Prop where
  keyword : region.keyword = declared.keyword
  line : region.line = declared.line
  describes : ∃ before content after,
    declared.body = before ++ '[' :: (content ++ ']' :: after) ∧
    (∀ c ∈ before, isNoBracket c = true) ∧ (∀ c ∈ content, isNoBracket c = true) ∧
    Describes options before content after region

/-! ## Brackets -/

/-- A body on one line is split at its first two brackets if they are a group. -/
theorem splitBrackets?_eq_some_iff {body name content after : List Char} (hline : '\n' ∉ body) :
    splitBrackets? body = some (name, content, after) ↔
      ∃ before, body = before ++ '[' :: (content ++ ']' :: after) ∧
        (∀ c ∈ before, isNoBracket c = true) ∧ (∀ c ∈ content, isNoBracket c = true) ∧
        name = trimEnd before := by
  constructor
  · intro h
    rw [splitBrackets?] at h
    split at h
    · rename_i hgroup
      rcases takeBrackets?_eq_some_iff.1 hgroup with ⟨hdrop, hcontent⟩
      split at h
      · cases h
      · cases h
        refine ⟨body.takeWhile isNoBracket, ?_, fun c hc => List.mem_takeWhile_imp hc, hcontent,
          rfl⟩
        rw [← hdrop, List.takeWhile_append_dropWhile]
    · cases h
  · rintro ⟨before, rfl, hbefore, hcontent, rfl⟩
    have hopen : ¬ isNoBracket '[' = true := by decide
    have hafter : ¬ after.dropLast.contains '\n' = true := by
      rw [List.contains_iff_mem]
      intro hmem
      exact hline (by simp [List.dropLast_subset after hmem])
    rw [splitBrackets?, List.dropWhile_append_of_pos hbefore, List.takeWhile_append_of_pos hbefore,
      List.dropWhile_cons_of_neg hopen, List.takeWhile_cons_of_neg hopen,
      takeBrackets?_group hcontent, List.append_nil]
    exact if_neg hafter

/-! ## Numbers -/

section Numbers

variable {what : String} {values : List Double}

/-- The numbers of trimmed tokens are those that the tokens denote. -/
theorem mapM_readNumber_eq_ok_iff {tokens : List (List Char)}
    (htrim : ∀ token ∈ tokens, trim token = token) :
    tokens.mapM (readNumber what) = .ok values ↔ AreNumerals tokens values := by
  have hself : tokens = tokens.map trim :=
    (List.map_congr_left htrim).trans (List.map_id tokens) |>.symm
  rw [mapM_eq_ok_iff, hself, AreNumerals, List.forall₂_map_left_iff, List.forall₂_map_left_iff]
  simp only [readNumber_eq_ok_iff, trim_trim]

/-- Without a comma and anything else than blanks, a text has no parts. -/
theorem commaParts_eq (text : List Char) :
    commaParts text = (List.splitOn ',' text).map trim ∨
      commaParts text = [] ∧ (List.splitOn ',' text).map trim = [[]] := by
  rw [commaParts]
  split
  · rename_i hblank
    exact .inr ⟨rfl, hblank⟩
  · exact .inl rfl

/-- The numbers between commas are read if they are of an expected count, which is not none. -/
theorem readNumbers_eq_ok_iff {expected : List Int} {text : List Char} (hzero : 0 ∉ expected)
    (hone : 1 ∉ expected) :
    readNumbers expected what text = .ok values ↔
      (values.length : Int) ∈ expected ∧ AreNumerals ((List.splitOn ',' text).map trim) values := by
  have htrim : ∀ token ∈ (List.splitOn ',' text).map trim, trim token = token := by
    simp
  rw [readNumbers]
  rcases commaParts_eq text with hparts | ⟨hnone, hblank⟩
  · rw [hparts]
    constructor
    · intro h
      split at h
      · rename_i hcount
        have hall := (mapM_readNumber_eq_ok_iff htrim).1 h
        rw [hall.length_eq, List.contains_iff_mem] at hcount
        exact ⟨hcount, hall⟩
      · cases h
    · rintro ⟨hcount, hall⟩
      rw [← hall.length_eq, ← List.contains_iff_mem] at hcount
      rw [if_pos hcount, mapM_readNumber_eq_ok_iff htrim]
      exact hall
  · -- neither no part nor a blank one is of an expected count
    rw [hnone, hblank, if_neg (by simpa [List.contains_iff_mem] using hzero)]
    constructor
    · intro h
      cases h
    · rintro ⟨hcount, hall⟩
      rw [← hall.length_eq] at hcount
      exact absurd hcount hone

/-- A word has no blank at either end. -/
theorem trim_of_mem_words {text word : List Char} (h : word ∈ words text) : trim word = word := by
  have hsolid := (mem_words h).2.1
  exact trim_eq_self_iff.2 ⟨fun c hc => hsolid c (List.mem_of_mem_head? hc),
    fun c hc => hsolid c (List.mem_of_mem_getLast? hc)⟩

/-- A size is at most two words, and each of them is a numeral. -/
theorem readSize_eq_ok_iff {keyword : String} {rest : List Char} {width height : Option Double} :
    readSize keyword rest = .ok (width, height) ↔
      ∃ values, AreNumerals (words rest) values ∧ values.length ≤ 2 ∧
        width = values[0]? ∧ height = values[1]? := by
  have htrim : ∀ word ∈ words rest, trim word = word := fun word => trim_of_mem_words
  rw [readSize]
  revert htrim
  match words rest with
  | [] =>
      intro _
      simp [AreNumerals, eq_comm]
  | [first] =>
      intro htrim
      have hfirst : trim first = first := htrim first (by simp)
      simp only [bind_eq_ok, pure_eq_ok, readNumber_eq_ok_iff, hfirst, Prod.mk.injEq,
        areNumerals_cons, areNumerals_nil]
      constructor
      · rintro ⟨value, hvalue, rfl, rfl⟩
        exact ⟨[value], ⟨value, [], hvalue, rfl, rfl⟩, by simp, rfl, rfl⟩
      · rintro ⟨_, ⟨value, _, hvalue, rfl, rfl⟩, -, rfl, rfl⟩
        exact ⟨value, hvalue, rfl, rfl⟩
  | [first, second] =>
      intro htrim
      have hfirst : trim first = first := htrim first (by simp)
      have hsecond : trim second = second := htrim second (by simp)
      simp only [bind_eq_ok, pure_eq_ok, readNumber_eq_ok_iff, hfirst, hsecond, Prod.mk.injEq,
        areNumerals_cons, areNumerals_nil]
      constructor
      · rintro ⟨value, hvalue, other, hother, rfl, rfl⟩
        exact ⟨[value, other], ⟨value, [other], hvalue, ⟨other, [], hother, rfl, rfl⟩, rfl⟩,
          by simp, rfl, rfl⟩
      · rintro ⟨_, ⟨value, _, hvalue, ⟨other, _, hother, rfl, rfl⟩, rfl⟩, -, rfl, rfl⟩
        exact ⟨value, hvalue, other, hother, rfl, rfl⟩
  | first :: second :: third :: others =>
      intro _
      constructor
      · intro h
        cases h
      · rintro ⟨values, hall, hcount, -, -⟩
        have hlength := hall.length_eq
        simp only [List.length_cons] at hlength
        omega

end Numbers

/-! ## Readings -/

section Readings

variable {options : RegionOptions} {declared : Declaration} {region : Region}

/-- The corners of a region are the coordinates in their order if there are as many as admitted. -/
theorem givesCorners_iff {values : List Double} :
    GivesCorners options values region ↔
      (values.length : Int) ∈ (if options.allowCorners then [2, 4] else [2] : List Int) ∧
        region.visibility = (values[0]?.map Number.float).getD 0 ∧
        region.maturity = (values[1]?.map Number.float).getD 0 ∧
        region.visibility2 = values[2]?.map Number.float ∧
        region.maturity2 = values[3]?.map Number.float := by
  rw [GivesCorners]
  match values with
  | [] => cases options.allowCorners <;> simp
  | [_] => cases options.allowCorners <;> simp
  | [_, _] => cases options.allowCorners <;> simp
  | [_, _, _] => cases options.allowCorners <;> simp
  | [_, _, _, _] => cases options.allowCorners <;> simp
  | _ :: _ :: _ :: _ :: _ :: others =>
      have hcount : (others.length : Int) + 1 + 1 + 1 + 1 + 1 ≠ 4 := by omega
      have hcount' : (others.length : Int) + 1 + 1 + 1 + 1 + 1 ≠ 2 := by omega
      cases options.allowCorners <;> simp [hcount, hcount']

/-- The size that options read behind the brackets. -/
def sizeUnder (options : RegionOptions) (keyword : String) (after : List Char) :
    Except Fault (Option Double × Option Double) :=
  if options.allowSize then readSize keyword after else pure (none, none)

/-- The size of a region is that of the words behind the brackets, or none. -/
theorem sizeUnder_iff (region : Region) {keyword : String} {after : List Char} :
    (∃ size, sizeUnder options keyword after = .ok size ∧
        region.width = size.1.map Number.float ∧ region.height = size.2.map Number.float) ↔
      (options.allowSize = true →
        ∃ values, AreNumerals (words after) values ∧ GivesSize values region) ∧
      (options.allowSize = false → region.width = none ∧ region.height = none) := by
  rw [sizeUnder]
  by_cases hsize : options.allowSize = true
  · simp only [hsize, if_true, true_implies, reduceCtorEq, false_implies, and_true]
    constructor
    · rintro ⟨⟨width, height⟩, hread, hwidth, hheight⟩
      rcases readSize_eq_ok_iff.1 hread with ⟨values, hall, hcount, rfl, rfl⟩
      exact ⟨values, hall, hcount, hwidth, hheight⟩
    · rintro ⟨values, hall, hcount, hwidth, hheight⟩
      exact ⟨(values[0]?, values[1]?), readSize_eq_ok_iff.2 ⟨values, hall, hcount, rfl, rfl⟩,
        hwidth, hheight⟩
  · rw [if_neg hsize]
    simp [hsize]

/-- The steps of a reading that gives a region. -/
theorem readRegion_eq_ok_iff_steps :
    readRegion options declared = .ok region ↔
      ∃ name content after coordinates size,
        splitBrackets? declared.body = some (name, content, after) ∧
        (options.requireName = true → trim name ≠ []) ∧
        readNumbers (if options.allowCorners then [2, 4] else [2]) "coordinate" content =
          .ok coordinates ∧
        sizeUnder options declared.keyword after = .ok size ∧
        { keyword := declared.keyword
          name := String.ofList (trim name)
          visibility := (coordinates[0]?.map Number.float).getD 0
          maturity := (coordinates[1]?.map Number.float).getD 0
          visibility2 := coordinates[2]?.map Number.float
          maturity2 := coordinates[3]?.map Number.float
          width := size.1.map Number.float
          height := size.2.map Number.float
          line := declared.line } = region := by
  have hnamed (name : List Char) : ¬ (options.requireName && (trim name).isEmpty) = true ↔
      (options.requireName = true → trim name ≠ []) := by
    simp
  simp only [readRegion]
  cases hsplit : splitBrackets? declared.body with
  | none =>
      constructor
      · exact fun h => absurd h throw_ne_ok
      · rintro ⟨_, _, _, _, _, hnone, -⟩
        cases hnone
  | some parts =>
      rcases parts with ⟨name, content, after⟩
      -- the size is read or not before the last step, which is the same in both cases
      have hsize (last : Option Double × Option Double → Except Fault Region) :
          (if options.allowSize = true then readSize declared.keyword after >>= last
            else pure (none, none) >>= last) =
          sizeUnder options declared.keyword after >>= last := by
        rw [sizeUnder]
        split <;> rfl
      simp only [hsize, bind_eq_ok, guard_eq_ok, hnamed, pure_eq_ok]
      constructor
      · rintro ⟨hname, coordinates, hread, size, hsized, hregion⟩
        exact ⟨name, content, after, coordinates, size, rfl, hname, hread, hsized, hregion⟩
      · rintro ⟨_, _, _, coordinates, size, ⟨⟩, hname, hread, hsized, hregion⟩
        exact ⟨hname, coordinates, hread, size, hsized, hregion⟩

/-- The bodies on one line that are read are those of regions. -/
theorem readRegion_eq_ok_iff (hline : '\n' ∉ declared.body) :
    readRegion options declared = .ok region ↔ IsRegion options declared region := by
  have hcounts : ∀ count ∈ (if options.allowCorners then [2, 4] else [2] : List Int),
      count ≠ 0 ∧ count ≠ 1 := by
    cases options.allowCorners <;> simp
  have hnumbers {content : List Char} {values : List Double} :
      readNumbers (if options.allowCorners then [2, 4] else [2]) "coordinate" content =
          .ok values ↔
        (values.length : Int) ∈ (if options.allowCorners then [2, 4] else [2] : List Int) ∧
          AreNumerals ((List.splitOn ',' content).map trim) values :=
    readNumbers_eq_ok_iff (fun h => (hcounts 0 h).1 rfl) fun h => (hcounts 1 h).2 rfl
  rw [readRegion_eq_ok_iff_steps]
  constructor
  · rintro ⟨name, content, after, coordinates, size, hsplit, hnamed, hread, hsize, hregion⟩
    rcases (splitBrackets?_eq_some_iff hline).1 hsplit with
      ⟨before, hbody, hbefore, hcontent, rfl⟩
    rw [trim_trimEnd_eq] at hnamed
    rcases hnumbers.1 hread with ⟨hcount, hcoordinates⟩
    have hsized := (sizeUnder_iff region).1
      ⟨size, hsize, by rw [← hregion], by rw [← hregion]⟩
    subst hregion
    refine ⟨rfl, rfl, before, content, after, hbody, hbefore, hcontent, hnamed, ?_,
      ⟨coordinates, hcoordinates, ?_⟩, hsized.1, hsized.2⟩
    · dsimp only
      rw [trim_trimEnd_eq]
    · exact givesCorners_iff.2 ⟨hcount, rfl, rfl, rfl, rfl⟩
  · rintro ⟨hkeyword, hnumber, before, content, after, hbody, hbefore, hcontent, hdescribes⟩
    rcases hdescribes with ⟨hnamed, hname, ⟨values, hvalues, hcorners⟩, hsize, hunsized⟩
    rcases givesCorners_iff.1 hcorners with ⟨hcount, hvisibility, hmaturity, hcorner, hcorner'⟩
    rcases (sizeUnder_iff region).2 ⟨hsize, hunsized⟩ with ⟨size, hread, hwidth, hheight⟩
    have hsplit := (splitBrackets?_eq_some_iff hline).2
      ⟨before, hbody, hbefore, hcontent, rfl⟩
    refine ⟨_, content, after, values, size, hsplit, ?_, hnumbers.2 ⟨hcount, hvalues⟩, hread, ?_⟩
    · rwa [trim_trimEnd_eq]
    · rw [trim_trimEnd_eq, ← hname, ← hvisibility, ← hmaturity, ← hcorner, ← hcorner', ← hwidth,
        ← hheight, ← hkeyword, ← hnumber]

end Readings

end Construct
end Wardley
