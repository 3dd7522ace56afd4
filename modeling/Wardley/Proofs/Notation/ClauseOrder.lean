import Wardley.Proofs.Notation.WrittenElements

/-!
# Elements with clauses in any order

The address, the groups, the place and the label are cut out of a body one after the other.
Whatever the order of the clauses is, each one is cut out without harm to the others, and a
written element is read back.

Main results:

- `takeUrl_body`, `takeDecorators_bare`, `takeLabel_kept`: what each reading cuts out.
- `WrittenElement.readElement_body`: a written element is read back.
-/

namespace Wardley
namespace Notation

open Text

/-! ## The address -/

/-- No mark spells the keyword of a url. -/
theorem not_isInfix_word (mark : Mark) :
    ¬ "url".toList <:+: mark.word ∧ ¬ "url".toList <:+: ' ' :: mark.word := by
  rw [← occurs_iff_isInfix, ← occurs_iff_isInfix]
  cases mark with
  | decorator d => cases d <;> decide
  | inertia => decide

/-- No word of a mark looks like an address. -/
theorem not_isInfix_groupContent (marks : List Mark) : ¬ "url".toList <:+: groupContent marks := by
  intro hin
  cases marks with
  | nil => exact absurd (List.infix_nil.1 hin) (by decide)
  | cons mark rest =>
      rw [groupContent, List.map_cons, intercalate_comma_space] at hin
      rcases isInfix_intercalate (by decide) (by decide) hin with ⟨piece, hpiece, hurl⟩
      rcases List.mem_cons.1 hpiece with rfl | hmem
      · exact (not_isInfix_word mark).1 hurl
      · rw [List.map_map] at hmem
        rcases List.mem_map.1 hmem with ⟨other, -, rfl⟩
        exact (not_isInfix_word other).2 hurl

/-- No address begins in a group. -/
theorem not_isInfix_groupText (marks : List Mark) :
    ¬ "url".toList <:+: ' ' :: groupText marks := by
  intro hin
  have hopen : ¬ "url".toList <:+: [' '] := by
    rw [← occurs_iff_isInfix]
    decide
  have htext : ' ' :: groupText marks = [' '] ++ '(' :: (groupContent marks ++ [')']) := rfl
  rw [htext] at hin
  rcases isInfix_append_cons (by decide) (by decide) hin with hspace | hcontent
  · exact hopen hspace
  · rcases isInfix_append_cons (by decide) (by decide) hcontent with hcontent | hnil
    · exact not_isInfix_groupContent marks hcontent
    · exact absurd (List.infix_nil.1 hnil) (by decide)

/-- No address begins in another clause. -/
theorem Clause.skips_url {clause : Clause} (h : clause.url? = none) (rest : List Char) :
    Skips "url".toList takeReference? (' ' :: clause.text) rest := by
  cases clause with
  | label x y =>
      have hu : 'u' ∉ ' ' :: labelText (pairText x y) := by
        have hpair := not_mem_pairText (c := 'u') (by decide) (by decide) x y
        simp [labelText_eq, hpair]
      have hlast : (' ' :: labelText (pairText x y)).getLast? = some ']' := by
        simp [labelText_eq, List.getLast?_cons]
      exact skips_of_not_mem hlast (by decide) List.mem_cons_self hu rest
  | group first others =>
      have hlast : (' ' :: groupText (first :: others)).getLast? = some ')' := by
        simp [groupText, List.getLast?_cons]
      exact skips_of_not_isInfix hlast (by decide) (not_isInfix_groupText _) rest
  | inertia =>
      have hlast : (' ' :: "inertia".toList).getLast? = some 'a' := rfl
      exact skips_of_not_mem hlast (by decide) List.mem_cons_self (by decide) rest
  | url name => cases h

/-- No url starts among other clauses. -/
theorem skips_url_spaced {clauses : List Clause} (h : ∀ clause ∈ clauses, clause.url? = none)
    (rest : List Char) : Skips "url".toList takeReference? (spaced Clause.text clauses) rest := by
  induction clauses with
  | nil => exact Skips.nil rest
  | cons clause others ih =>
      have hothers := ih fun other hother => h other (List.mem_cons_of_mem _ hother)
      exact (Clause.skips_url (h clause List.mem_cons_self) _).append hothers

/-- No url starts in a place. -/
theorem skips_url_place (place : Option (Numeral × Numeral)) (rest : List Char) :
    Skips "url".toList takeReference? (placeText place) rest := by
  cases place with
  | none => exact Skips.nil rest
  | some place =>
      have hu : 'u' ∉ placeText (some place) := by
        have hpair := not_mem_pairText (c := 'u') (by decide) (by decide) place.1 place.2
        simp [placeText, hpair]
      have hlast : (placeText (some place)).getLast? = some ']' := by
        simp [placeText, List.getLast?_cons]
      exact skips_of_not_mem hlast (by decide) List.mem_cons_self hu rest

namespace WrittenElement

variable {written : WrittenElement}

/-- Behind a word `url` in the name of an element, no parentheses follow. -/
theorem IsReadable.takeReference?_behind (h : written.IsReadable) {start behind : List Char}
    (hname : written.name = start ++ ("url".toList ++ behind))
    (hfresh : ∀ c ∈ start.getLast?, isWord c = false) (rest : List Char) :
    takeReference? (behind ++ (placeText written.place ++ rest)) = none := by
  apply takeParentheses?_eq_none
  by_cases hblank : ∀ c ∈ behind, isBlank c = true
  · -- then the word ends the name, and a bracket follows
    have htrim := h.trim_name
    rw [hname, ← List.append_assoc] at htrim
    obtain rfl := eq_nil_of_trim_append htrim hblank
    rw [List.append_nil] at hname
    cases hplace : written.place with
    | none => exact absurd ⟨start, hname, hfresh⟩ (h.sketched hplace).2.2
    | some place =>
        have hspace : isBlank ' ' = true := by decide
        have hbracket : ¬ isBlank '[' = true := by decide
        rw [List.nil_append, placeText, List.cons_append, List.cons_append, trimStart,
          List.dropWhile_cons_of_pos hspace, List.dropWhile_cons_of_neg hbracket]
        simp
  · have hsolid : trimStart behind ≠ [] := by
      rwa [Ne, trimStart, List.dropWhile_eq_nil_iff]
    have hparenthesis := h.not_mem_name (c := '(') (by decide)
    rw [hname, List.mem_append, List.mem_append, not_or, not_or] at hparenthesis
    rw [trimStart_append hblank, List.head?_append_of_ne_nil _ hsolid]
    exact fun hhead => hparenthesis.2.2
      ((List.dropWhile_sublist _).mem (List.mem_of_mem_head? hhead))

/-- No address begins in the name of an element. -/
theorem IsReadable.findClause_name (h : written.IsReadable) {rest : List Char}
    (hrest : ∀ c ∈ rest.head?, c = ' ') :
    findClause "url".toList takeReference? false
        (written.name ++ (placeText written.place ++ rest)) =
      (findClause "url".toList takeReference? (goesOn false written.name)
        (placeText written.place ++ rest)).map
          fun found => (written.name ++ found.1, found.2.1, found.2.2) := by
  apply findClause_append
  intro start finish hname hne hgoes
  rw [Option.bind_eq_none_iff]
  intro after hafter
  have hword := afterPrefix_eq_some.1 hafter
  -- the word lies within the name, because a space follows
  have hspace : ∀ c ∈ (placeText written.place ++ rest).head?, c ∉ "url".toList := by
    intro c hc
    rw [head?_placeText_append written.place hrest c hc]
    decide
  rcases (prefix_append_iff hspace).1 ⟨after, hword.symm⟩ with ⟨behind, rfl⟩
  rw [List.append_assoc] at hword
  rw [← List.append_cancel_left hword]
  refine h.takeReference?_behind hname (fun c hc => ?_) rest
  simpa [goesOn, Option.mem_def.1 hc] using hgoes

/-- No address begins in the name, the place and the other clauses of an element. -/
theorem IsReadable.findClause_lead (h : written.IsReadable) {clauses : List Clause}
    (hclauses : ∀ clause ∈ clauses, clause.url? = none) {rest : List Char}
    (hrest : ∀ c ∈ (spaced Clause.text clauses ++ rest).head?, c = ' ') :
    findClause "url".toList takeReference? false
        (written.lead ++ (spaced Clause.text clauses ++ rest)) =
      (findClause "url".toList takeReference?
        (goesOn (goesOn (goesOn false written.name) (placeText written.place))
          (spaced Clause.text clauses)) rest).map fun found =>
            (written.lead ++ (spaced Clause.text clauses ++ found.1), found.2.1, found.2.2) := by
  rw [lead, List.append_assoc, h.findClause_name hrest,
    (skips_url_place written.place _).findClause_eq,
    (skips_url_spaced hclauses rest).findClause_eq, Option.map_map, Option.map_map]
  simp only [Function.comp_def, List.append_assoc]

end WrittenElement

/-- The only address of clauses stands among clauses without one. -/
theorem exists_url {clauses : List Clause} {name : List Char}
    (hurl : clauses.findSome? Clause.url? = some name)
    (hone : clauses.countP (fun clause => clause.url?.isSome) ≤ 1) :
    ∃ before after, clauses = before ++ .url name :: after ∧
      (∀ clause ∈ before, clause.url? = none) ∧ ∀ clause ∈ after, clause.url? = none := by
  rcases exists_only hurl hone with ⟨before, clause, after, rfl, hname, hbefore, hafter⟩
  obtain rfl : clause = .url name := by
    cases clause <;> cases hname
    rfl
  exact ⟨before, after, rfl, hbefore, hafter⟩

/-- The address of an element is found behind other clauses. -/
theorem WrittenElement.IsReadable.findClause_urlText {written : WrittenElement}
    (h : written.IsReadable) {before : List Clause}
    (hbefore : ∀ clause ∈ before, clause.url? = none) {name : List Char}
    (hname : ∀ c ∈ name, isNoParenthesis c = true) (after : List Char) :
    findClause "url".toList takeReference? false
        ((written.lead ++ (spaced Clause.text before ++ [' '])) ++ (urlText name ++ after)) =
      some (written.lead ++ (spaced Clause.text before ++ [' ']), name, after) := by
  have hspace : Skips "url".toList takeReference? [' '] (urlText name ++ after) :=
    skips_of_not_mem rfl (by decide) List.mem_cons_self (by decide) _
  have hfresh (continued : Bool) : goesOn continued [' '] = false := rfl
  have hlead := h.findClause_lead hbefore (head?_spaced_append Clause.text before
    ([' '] ++ (urlText name ++ after)) (by simp))
  rw [hspace.findClause_eq, hfresh, Notation.findClause_urlText hname] at hlead
  simpa only [List.append_assoc, List.append_nil, Option.map_some] using hlead

/-- The address is cut out of the body of a written element. -/
theorem WrittenElement.IsReadable.takeUrl_body {written : WrittenElement}
    (h : written.IsReadable) :
    ∃ rest, takeUrl written.body = (written.clauses.findSome? Clause.url?, rest) ∧
      takeDecorators rest =
        takeDecorators (written.lead ++ spaced Clause.bare written.clauses) := by
  cases hurl : written.clauses.findSome? Clause.url? with
  | none =>
      have hnone : ∀ clause ∈ written.clauses, clause.url? = none :=
        List.findSome?_eq_none_iff.1 hurl
      have hfind := h.findClause_lead hnone (head?_spaced_append Clause.text _ [] (by simp))
      rw [List.append_nil] at hfind
      refine ⟨written.body, ?_, ?_⟩
      · unfold takeReference? at hfind
        rw [takeUrl, body, hfind]
        rfl
      · rw [spaced_bare hnone]
        rfl
  | some name =>
      rcases exists_url hurl h.one_url with ⟨before, after, hclauses, hbefore, hafter⟩
      have hmem : .url name ∈ written.clauses := by simp [hclauses]
      rcases h.plain_url name hmem with ⟨hne, htrim, hplain⟩
      have hbody : written.body = (written.lead ++ (spaced Clause.text before ++ [' '])) ++
          (urlText name ++ spaced Clause.text after) := by
        rw [body, hclauses, spaced_append]
        simp [spaced]
      have hbare : written.lead ++ spaced Clause.bare written.clauses =
          written.lead ++ (spaced Clause.text before ++ [' ']) ++
            ' ' :: spaced Clause.text after := by
        have hcons : spaced Clause.bare (.url name :: after) =
            ' ' :: ' ' :: spaced Clause.bare after := rfl
        rw [hclauses, spaced_append, hcons, spaced_bare hbefore, spaced_bare hafter]
        simp
      refine ⟨closeGap (written.lead ++ (spaced Clause.text before ++ [' ']))
        (spaced Clause.text after), ?_, ?_⟩
      · rw [hbody]
        exact takeUrl_append (h.findClause_urlText hbefore hplain _) hne htrim
      · rw [hbare, closeGap]
        exact (takeDecorators_padded (padded_trim _)).symm

/-! ## The groups -/

/-- The pieces of a clause without the address. -/
def Clause.pieces : Clause → List Piece
  | .group first others => [.group (groupContent (first :: others))]
  | clause => clause.bare.map Piece.char

/-- The pieces of a clause come before those of the text behind it. -/
theorem Clause.pieces_bare (clause : Clause) (text : List Char) :
    Notation.pieces (clause.bare ++ text) = clause.pieces ++ Notation.pieces text := by
  cases clause with
  | label x y =>
      apply pieces_append
      have hpair := not_mem_pairText (c := '(') (by decide) (by decide) x y
      simp [bare, labelText_eq, hpair]
  | group first others => exact pieces_groupText _ text
  | inertia => exact pieces_append (by decide) text
  | url name =>
      have hspace : '(' ∉ [' '] := by decide
      exact pieces_append hspace text

/-- The pieces of clauses follow one another, a space before each. -/
theorem pieces_spaced (clauses : List Clause) :
    pieces (spaced Clause.bare clauses) =
      clauses.flatMap fun clause => .char ' ' :: clause.pieces := by
  induction clauses with
  | nil => rw [spaced, List.flatMap_nil, pieces, List.flatMap_nil]
  | cons clause others ih =>
      have hfront : '(' ∉ [' '] := by decide
      have hspace (text : List Char) : pieces (' ' :: text) = .char ' ' :: pieces text :=
        pieces_append hfront text
      rw [List.flatMap_cons, ← ih, spaced, List.flatMap_cons, List.cons_append, hspace,
        Clause.pieces_bare, List.cons_append]
      rfl

/-- The pieces of a clause set its marks. -/
theorem Clause.marks_pieces (clause : Clause) :
    clause.pieces.flatMap Piece.marks = clause.marks := by
  cases clause with
  | group first others =>
      rw [pieces, List.flatMap_singleton, marks_groupContent]
      rfl
  | label x y => exact marks_map_char _
  | inertia => exact marks_map_char _
  | url name => exact marks_map_char _

/-- What remains of the pieces of a clause. -/
theorem Clause.remains_pieces (clause : Clause) :
    clause.pieces.flatMap Piece.remains = clause.remains := by
  cases clause with
  | group first others =>
      rw [pieces, List.flatMap_singleton, remains_groupContent (List.cons_ne_nil _ _)]
      rfl
  | label x y => exact remains_map_char _
  | inertia => exact remains_map_char _
  | url name => exact remains_map_char _

namespace WrittenElement

variable {written : WrittenElement}

/-- All groups are taken out of a written element, and only they. -/
theorem IsReadable.takeDecorators_bare (h : written.IsReadable) :
    takeDecorators (written.lead ++ spaced Clause.bare written.clauses) =
      ⟨markedDecorators written.marks, written.marks.contains .inertia,
        written.lead ++ spaced Clause.text (written.clauses.filter Clause.isKept)⟩ := by
  have hparts := pieces_append h.not_mem_lead (spaced Clause.bare written.clauses)
  have hmarks : (pieces (written.lead ++ spaced Clause.bare written.clauses)).flatMap Piece.marks =
      written.marks := by
    rw [hparts, pieces_spaced, List.flatMap_append, marks_map_char, List.nil_append,
      List.flatMap_assoc, marks]
    refine List.flatMap_congr fun clause _ => ?_
    rw [List.flatMap_cons, clause.marks_pieces]
    rfl
  have hremains : (pieces (written.lead ++ spaced Clause.bare written.clauses)).flatMap
      Piece.remains = written.lead ++ spaced Clause.remains written.clauses := by
    rw [hparts, pieces_spaced, List.flatMap_append, remains_map_char, List.flatMap_assoc, spaced]
    congr 1
    refine List.flatMap_congr fun clause _ => ?_
    rw [List.flatMap_cons, clause.remains_pieces]
    rfl
  have hcollapse : collapse (written.lead ++ spaced Clause.remains written.clauses) =
      written.lead ++ spaced Clause.text (written.clauses.filter Clause.isKept) := by
    rw [collapse, words_kept, ← collapse, h.isCollapsed_kept.collapse_eq]
  rw [takeDecorators]
  simp only [hmarks, hremains, hcollapse, foldl_apply]

end WrittenElement

/-! ## The label and the bare word -/

/-- A label is cut out from behind a text that does not begin it. -/
theorem takeLabel_label {before : List Char} (x y : Numeral) (after : List Char)
    (hskip : Skips "label".toList takeOffset? before (labelText (pairText x y) ++ after))
    (hfresh : goesOn false before = false) :
    takeLabel (before ++ (labelText (pairText x y) ++ after)) =
      .ok (some ⟨.float x.value, .float y.value⟩, closeGap before after) := by
  have hfind := hskip.findClause_eq false
  rw [hfresh, findClause_labelText (isNoBracket_of_mem_pairText x y), Option.map_some,
    List.append_nil] at hfind
  exact takeLabel_append hfind (readPair_pairText "label offset" x y)

/-- Behind the place, the label and the bare word are read in either order. -/
theorem takeLabel_kept {kept : List Clause} (hkept : ∀ clause ∈ kept, clause.isKept = true)
    (hlabel : kept.countP (fun clause => clause.label?.isSome) ≤ 1)
    (hinertia : kept.countP Clause.isInertia ≤ 1) :
    ∃ rest, takeLabel (trim (spaced Clause.text kept)) =
        .ok (kept.findSome? Clause.label?, rest) ∧
      (dropInertia rest).2 = kept.any Clause.isInertia := by
  rcases kept_cases hkept hlabel hinertia with rfl | rfl | ⟨x, y, rfl | rfl | rfl⟩
  · exact ⟨[], rfl, rfl⟩
  · exact ⟨"inertia".toList, rfl, rfl⟩
  · refine ⟨[], ?_, rfl⟩
    rw [trim_spaced_cons hkept]
    exact takeLabel_label x y [] (Skips.nil _) rfl
  · refine ⟨"inertia".toList, ?_, rfl⟩
    rw [trim_spaced_cons hkept]
    exact takeLabel_label x y (' ' :: "inertia".toList) (Skips.nil _) rfl
  · refine ⟨"inertia".toList, ?_, rfl⟩
    have hb : 'b' ∉ "inertia ".toList := by decide
    have hlast : "inertia ".toList.getLast? = some ' ' := rfl
    have hskip : Skips "label".toList takeOffset? "inertia ".toList
        (labelText (pairText x y) ++ []) :=
      skips_of_not_mem hlast (by decide) (by decide : 'b' ∈ "label".toList) hb _
    rw [trim_spaced_cons hkept]
    exact takeLabel_label x y [] hskip rfl

/-! ## Written elements -/

namespace WrittenElement

variable {written : WrittenElement}

/-- The name, the place and what is behind it are told apart. -/
theorem IsReadable.splitPosition_kept (h : written.IsReadable) {place : Numeral × Numeral}
    (hplace : written.place = some place) :
    splitPosition (written.lead ++ spaced Clause.text (written.clauses.filter Clause.isKept)) =
      .ok ⟨written.name, some (place.1.value, place.2.value),
        trim (spaced Clause.text (written.clauses.filter Clause.isKept))⟩ := by
  have hline := not_mem_spaced (isKept_of_mem_filter written.clauses)
  have hsplit := splitPosition_append h.isNoBracket_name h.trim_name
    (isNoBracket_of_mem_pairText place.1 place.2) hline
    (readPair_pairText "coordinate" place.1 place.2)
  rw [lead, hplace, placeText]
  simpa using hsplit

/-- Without a place, the name is what stands before the bare word. -/
theorem IsReadable.splitPosition_of_none (h : written.IsReadable) (hplace : written.place = none) :
    ∃ text,
      splitPosition (written.lead ++ spaced Clause.text (written.clauses.filter Clause.isKept)) =
        .ok ⟨text, none, []⟩ ∧
      dropInertia text = (written.name, written.clauses.any Clause.isInertia) := by
  have hlead : written.lead = written.name := by
    rw [lead, hplace, placeText, List.append_nil]
  rw [hlead, ← any_isInertia_kept]
  rcases h.kept_of_none hplace with hkept | hkept <;> rw [hkept]
  · refine ⟨written.name, ?_, dropInertia_eq_self h.trim_name (h.sketched hplace).2.1⟩
    rw [spaced, List.flatMap_nil, List.append_nil, splitPosition,
      List.all_eq_true.2 h.isNoBracket_name, h.trim_name]
    rfl
  · refine ⟨written.name ++ ' ' :: "inertia".toList, ?_, dropInertia_append h.trim_name⟩
    have hword : trim "inertia".toList = "inertia".toList := by decide
    have hall : (written.name ++ ' ' :: "inertia".toList).all isNoBracket = true := by
      rw [List.all_append, List.all_eq_true.2 h.isNoBracket_name]
      decide
    have htrim : trim (written.name ++ ' ' :: "inertia".toList) =
        written.name ++ ' ' :: "inertia".toList :=
      trim_between h.trim_name h.name_ne_nil hword (by decide) [' ']
    have htext : spaced Clause.text [.inertia] = ' ' :: "inertia".toList := rfl
    rw [htext, splitPosition, hall, htrim]
    rfl

/-- A written element is read back, whatever the order of its clauses is. -/
theorem readElement_body (h : written.IsReadable) (keyword : String) (kind : ElementKind)
    (line : Number) :
    readElement keyword kind line written.body = .ok (written.element kind line) := by
  have hname : written.name.isEmpty = false := List.isEmpty_eq_false_iff.2 h.name_ne_nil
  rcases h.takeUrl_body with ⟨rest, hurl, hrest⟩
  have hdecorators := hrest.trans h.takeDecorators_bare
  rw [readElement, hurl]
  dsimp only
  rw [hdecorators]
  dsimp only
  cases hplace : written.place with
  | none =>
      rcases h.splitPosition_of_none hplace with ⟨text, hsplit, hdrop⟩
      have hlabel : written.clauses.findSome? Clause.label? = none :=
        List.findSome?_eq_none_iff.2 (h.sketched hplace).1
      have htake : takeLabel [] = .ok (none, []) := rfl
      rw [hsplit, ok_bind]
      dsimp only
      rw [htake, ok_bind]
      dsimp only
      rw [hdrop, hname, element, hplace, hlabel]
      rfl
  | some place =>
      rcases takeLabel_kept (isKept_of_mem_filter written.clauses) h.countP_kept.1
        h.countP_kept.2 with ⟨behind, htake, hdrop⟩
      rw [h.splitPosition_kept hplace, ok_bind]
      dsimp only
      rw [htake, ok_bind]
      dsimp only
      rw [hdrop, hname, element, hplace, findSome?_label_kept, any_isInertia_kept]
      rfl

/-- An element whose name holds words of clauses. -/
def harbour : WrittenElement where
  name := "Old label url".toList
  place := some ({ sign := [], whole := ['0'], fraction := some ['9'] },
    { sign := ['+'], whole := [], fraction := some ['5'],
      exponent := some { letter := 'e', sign := ['-'], digits := ['1'] } })
  clauses := [.group (.decorator .market) [.inertia], .url "label [quay]".toList,
    .label { sign := ['-'], whole := ['7'] }
      { sign := [], whole := ['1', '2'], fraction := some [] },
    .group (.decorator .outsource) []]

theorem readElement_body_harbour :
    harbour.IsReadable ∧
      readElement "component" .component 4
          ("Old label url [0.9, +.5e-1] (market, inertia) url(label [quay]) " ++
            "label [-7, 12.] (outsource)").toList =
        .ok {
          name := "Old label url"
          visibility := .float (.ofDecimal ⟨false, 9, -1⟩)
          maturity := .float (.ofDecimal ⟨false, 5, -2⟩)
          label := ⟨.float (.ofDecimal ⟨true, 7, 0⟩), .float (.ofDecimal ⟨false, 12, 0⟩)⟩
          line := some 4
          decorators := some ⟨false, true, false, false, true⟩
          inertia := true
          url := some "label [quay]" } := by
  have hurl : ∀ name, .url name ∈ harbour.clauses → name = "label [quay]".toList := by
    -- by the place in the list, of which only the second one is an address
    intro name hname
    rcases hname with _ | ⟨_, hname⟩
    rcases hname with _ | ⟨_, hname⟩
    · rfl
    rcases hname with _ | ⟨_, hname⟩
    rcases hname with _ | ⟨_, hname⟩
    cases hname
  have hreadable : harbour.IsReadable :=
    { name_ne_nil := by decide
      collapse_name := by decide
      plain_name := List.all_iff_forall_prop.1 (by decide)
      one_label := by decide
      one_inertia := by decide
      one_url := by decide
      plain_url := fun name hname => by
        rw [hurl name hname]
        exact ⟨by decide, by decide, List.all_eq_true.1 (by decide)⟩
      sketched := fun hplace => by cases hplace }
  exact ⟨hreadable, readElement_body hreadable "component" .component 4⟩

end WrittenElement

end Notation
end Wardley
