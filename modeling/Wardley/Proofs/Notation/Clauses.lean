import Wardley.Proofs.Notation.Declarations
import Wardley.Proofs.Notation.Groups
import Wardley.Proofs.Text.Patterns

/-!
# Clauses among other texts

The search for a clause passes over a text in which the clause does not begin.  Where it
begins, the clause is cut out, and the texts around it are all that is left.

Main definitions:

- `goesOn`: the text ends within a word.
- `Skips`: a clause begins nowhere in a text.
- `EndsIn`: the text ends in a word of its own.
- `urlText`, `labelText`: written clauses.

Main results:

- `findClause_append`: the search for a clause behind a text that does not begin it.
- `takeUrl_append`, `takeLabel_append`: written clauses are cut out.
- `dropInertia_append`, `dropInertia_eq_self`: the word `inertia` at the end of a text.
-/

namespace Wardley
namespace Notation

open Text

/-! ## The ends of words -/

/-- No word goes on with a blank. -/
theorem isWord_of_isBlank {c : Char} (h : isBlank c = true) : isWord c = false := by
  rcases List.any_eq_true.1 h with ⟨blank, hblank, hbounds⟩
  simp only [Bool.and_eq_true, decide_eq_true_eq] at hbounds
  rw [isWord]
  split
  · have hsmall : ∀ code < 0x21, ¬ ((Char.ofNat code).isAlphanum || Char.ofNat code = '_') := by
      decide
    have hranges : ∀ blank ∈ blankRanges, blank.2 < 0x21 ∨ 0x80 ≤ blank.1 := by decide
    have hcode := hsmall c.toNat (by have := hranges blank hblank; omega)
    rw [Char.ofNat_toNat] at hcode
    exact Bool.eq_false_iff.2 hcode
  · have happart : ∀ range ∈ wordRanges, ∀ blank ∈ blankRanges,
        blank.2 < range.1 ∨ range.2 < blank.1 := by decide +kernel
    rw [List.any_eq_false]
    intro range hrange
    have := happart range hrange blank hblank
    simp only [Bool.and_eq_true, decide_eq_true_eq, not_and]
    omega

/-! ## The search for a clause -/

section Search

variable {α : Type} {word : List Char} {clause : List Char → Option (α × List Char)}

/-- The text ends in a character of a word, or is empty and continues a word. -/
def goesOn (continued : Bool) (text : List Char) : Bool := (text.getLast?.map isWord).getD continued

/-- Whether a word goes on depends on the last character. -/
theorem goesOn_cons (continued : Bool) (c : Char) (text : List Char) :
    goesOn continued (c :: text) = goesOn (isWord c) text := by
  cases text with
  | nil => rfl
  | cons d rest =>
      rw [goesOn, goesOn, List.getLast?_cons_cons,
        List.getLast?_eq_some_getLast (List.cons_ne_nil d rest)]
      rfl

/-- The search for a clause passes over a text in which the clause does not begin. -/
theorem findClause_append {before rest : List Char} {continued : Bool}
    (h : ∀ start finish, before = start ++ finish → finish ≠ [] → goesOn continued start = false →
      (afterPrefix word (finish ++ rest)).bind clause = none) :
    findClause word clause continued (before ++ rest) =
      (findClause word clause (goesOn continued before) rest).map
        fun found => (before ++ found.1, found.2.1, found.2.2) := by
  induction before generalizing continued with
  | nil => simp [goesOn]
  | cons c before ih =>
      have hhere : (if continued then none
          else (afterPrefix word (c :: (before ++ rest))).bind clause) = none := by
        split
        · rfl
        · rename_i hfresh
          exact h [] (c :: before) rfl (List.cons_ne_nil _ _) (Bool.eq_false_iff.2 hfresh)
      have hlater : findClause word clause (isWord c) (before ++ rest) =
          (findClause word clause (goesOn (isWord c) before) rest).map
            fun found => (before ++ found.1, found.2.1, found.2.2) :=
        ih fun start finish heq hne hgoes =>
          h (c :: start) finish (by rw [heq, List.cons_append]) hne (by rwa [goesOn_cons])
      rw [List.cons_append, findClause, hhere, hlater, goesOn_cons, Option.map_map]
      rfl

/-- The clause begins nowhere in the text, wherever a word ends. -/
def Skips (word : List Char) (clause : List Char → Option (α × List Char))
    (text rest : List Char) : Prop :=
  ∀ start finish, text = start ++ finish → finish ≠ [] →
    (afterPrefix word (finish ++ rest)).bind clause = none

/-- A clause is looked for behind what is skipped. -/
theorem Skips.findClause_eq {before rest : List Char} (h : Skips word clause before rest)
    (continued : Bool) :
    findClause word clause continued (before ++ rest) =
      (findClause word clause (goesOn continued before) rest).map
        fun found => (before ++ found.1, found.2.1, found.2.2) :=
  findClause_append fun start finish heq hne _ => h start finish heq hne

theorem Skips.nil (rest : List Char) : Skips word clause [] rest := by
  intro start finish heq hne
  exact absurd (List.append_eq_nil_iff.1 heq.symm).2 hne

/-- Texts in which a clause does not begin may follow each other. -/
theorem Skips.append {first second rest : List Char}
    (hfirst : Skips word clause first (second ++ rest)) (hsecond : Skips word clause second rest) :
    Skips word clause (first ++ second) rest := by
  intro start finish heq hne
  rcases List.append_eq_append_iff.1 heq with ⟨middle, -, hmiddle⟩ | ⟨middle, hmiddle, rfl⟩
  · exact hsecond middle finish hmiddle hne
  · by_cases hnil : middle = []
    · subst hnil
      exact hsecond [] second rfl hne
    · rw [List.append_assoc]
      exact hfirst start middle hmiddle hnil

section Last

variable {text : List Char} {last : Char} (hlast : text.getLast? = some last) (hnot : last ∉ word)
include hlast hnot

/-- A word does not begin in a text that neither holds it nor ends in one of its characters. -/
theorem skips_of_not_isInfix (hword : ¬ word <:+: text) (rest : List Char) :
    Skips word clause text rest := by
  rintro start finish rfl hne
  rw [Option.bind_eq_none_iff]
  intro after hafter
  exfalso
  have hprefix : word <+: finish ++ rest := ⟨after, (afterPrefix_eq_some.1 hafter).symm⟩
  rcases List.prefix_or_prefix_of_prefix hprefix (List.prefix_append _ _) with hwithin | hover
  · exact hword (hwithin.isInfix.trans (List.suffix_append start finish).isInfix)
  · rw [List.getLast?_append_of_ne_nil _ hne] at hlast
    exact hnot (hover.subset (List.mem_of_getLast? hlast))

/-- A word does not begin in a text without one of its characters. -/
theorem skips_of_not_mem {c : Char} (hc : c ∈ word) (hmem : c ∉ text) (rest : List Char) :
    Skips word clause text rest :=
  skips_of_not_isInfix hlast hnot (fun hin => hmem (hin.subset hc)) rest

end Last

end Search

/-! ## Written clauses -/

/-- The clause of an address. -/
def urlText (name : List Char) : List Char := "url".toList ++ '(' :: (name ++ [')'])

/-- The clause of a label offset. -/
def labelText (offset : List Char) : List Char := "label".toList ++ ' ' :: '[' :: (offset ++ [']'])

-- The characters of the words are spelled out here once, so that no proof has to unpack them.
theorem urlText_eq (name : List Char) :
    urlText name = 'u' :: 'r' :: 'l' :: '(' :: (name ++ [')']) := rfl

theorem labelText_eq (offset : List Char) :
    labelText offset = 'l' :: 'a' :: 'b' :: 'e' :: 'l' :: ' ' :: '[' :: (offset ++ [']']) := rfl

/-- The text between parentheses that a text may begin with, behind blanks. -/
def takeReference? (text : List Char) : Option (List Char × List Char) :=
  takeParentheses? (trimStart text)

/-- The text between brackets that a text may begin with, behind blanks. -/
def takeOffset? (text : List Char) : Option (List Char × List Char) :=
  takeBrackets? (trimStart text)

section Cut

variable {name offset : List Char}

/-- A written url clause is found where it stands. -/
theorem findClause_urlText (hname : ∀ c ∈ name, isNoParenthesis c = true) (after : List Char) :
    findClause "url".toList takeReference? false (urlText name ++ after) =
      some ([], name, after) := by
  have htext : urlText name ++ after =
      'u' :: 'r' :: 'l' :: '(' :: (name ++ ')' :: after) := by
    simp [urlText_eq]
  have hword : afterPrefix "url".toList ('u' :: 'r' :: 'l' :: '(' :: (name ++ ')' :: after)) =
      some ('(' :: (name ++ ')' :: after)) := afterPrefix_eq_some.2 rfl
  have hclause : takeReference? ('(' :: (name ++ ')' :: after)) = some (name, after) :=
    takeParentheses?_group hname after
  rw [htext, findClause, hword]
  simp only [Option.bind_some, hclause]
  rfl

/-- The first address is cut out of a body. -/
theorem takeUrl_append {before after : List Char}
    (hfind : findClause "url".toList takeReference? false (before ++ (urlText name ++ after)) =
      some (before, name, after))
    (hne : name ≠ []) (htrim : trim name = name) :
    takeUrl (before ++ (urlText name ++ after)) = (some name, closeGap before after) := by
  unfold takeReference? at hfind
  rw [takeUrl, hfind]
  simp only [htrim, List.isEmpty_eq_false_iff.2 hne]
  rfl

/-- A written label clause is found where it stands. -/
theorem findClause_labelText (hoffset : ∀ c ∈ offset, isNoBracket c = true) (after : List Char) :
    findClause "label".toList takeOffset? false (labelText offset ++ after) =
      some ([], offset, after) := by
  have htext : labelText offset ++ after =
      'l' :: 'a' :: 'b' :: 'e' :: 'l' :: ' ' :: '[' :: (offset ++ ']' :: after) := by
    simp [labelText_eq]
  have hword : afterPrefix "label".toList
      ('l' :: 'a' :: 'b' :: 'e' :: 'l' :: ' ' :: '[' :: (offset ++ ']' :: after)) =
        some (' ' :: '[' :: (offset ++ ']' :: after)) := afterPrefix_eq_some.2 rfl
  have hclause : takeOffset? (' ' :: '[' :: (offset ++ ']' :: after)) = some (offset, after) := by
    have hspace : isBlank ' ' = true := by decide
    have hbracket : ¬ isBlank '[' = true := by decide
    rw [takeOffset?, trimStart, List.dropWhile_cons_of_pos hspace,
      List.dropWhile_cons_of_neg hbracket, takeBrackets?_group hoffset]
  rw [htext, findClause, hword]
  simp only [Option.bind_some, hclause]
  rfl

/-- The first label is cut out of a body. -/
theorem takeLabel_append {before after : List Char} {x y : Double}
    (hfind : findClause "label".toList takeOffset? false (before ++ (labelText offset ++ after)) =
      some (before, offset, after))
    (hread : readPair "label offset" offset = .ok (x, y)) :
    takeLabel (before ++ (labelText offset ++ after)) =
      .ok (some ⟨.float x, .float y⟩, closeGap before after) := by
  unfold takeOffset? at hfind
  rw [takeLabel, hfind]
  simp only [hread]
  rfl

end Cut

/-! ## The word `inertia` at the end -/

/-- The text ends in a word that the character before it does not continue. -/
def EndsIn (continues : Char → Bool) (word text : List Char) : Prop :=
  ∃ start, text = start ++ word ∧ ∀ c ∈ start.getLast?, continues c = false

section Inertia

variable {name : List Char} (htrim : trim name = name)
include htrim

/-- A final word `inertia` is dropped. -/
theorem dropInertia_append :
    dropInertia (name ++ ' ' :: "inertia".toList) = (name, true) := by
  have hspace : isBlank ' ' = true := by decide
  have hend : trimEnd (name ++ ' ' :: "inertia".toList) = name ++ ' ' :: "inertia".toList := by
    have hlast : ¬ isBlank 'a' = true := by decide
    have hconcat : name ++ ' ' :: "inertia".toList = (name ++ " inerti".toList) ++ ['a'] := by simp
    rw [hconcat, trimEnd_eq_rdropWhile, List.rdropWhile_concat_neg _ _ _ hlast]
  have hreverse : (name ++ ' ' :: "inertia".toList).reverse =
      "inertia".toList.reverse ++ ' ' :: name.reverse := by simp
  rw [dropInertia, hend, hreverse, afterPrefix_eq_some.2 rfl]
  simp only [hspace, List.reverse_reverse, htrim, if_true]

/-- A text that does not end in the word `inertia` is left as it is. -/
theorem dropInertia_eq_self (hinertia : ¬ EndsIn isSolid "inertia".toList name) :
    dropInertia name = (name, false) := by
  have hend : trimEnd name = name := by rw [← htrim, trimEnd_trim]
  have hstart {rest : List Char}
      (h : afterPrefix "inertia".toList.reverse name.reverse = some rest) :
      name = rest.reverse ++ "inertia".toList := by
    have hreverse := congrArg List.reverse (afterPrefix_eq_some.1 h)
    rwa [List.reverse_reverse, List.reverse_append, List.reverse_reverse] at hreverse
  rw [dropInertia, hend]
  split
  · rename_i hword
    exact absurd ⟨[], hstart hword, by simp⟩ hinertia
  · rename_i c rest hword
    split
    · rename_i hblank
      refine absurd ⟨(c :: rest).reverse, hstart hword, ?_⟩ hinertia
      intro d hd
      rw [List.reverse_cons, List.getLast?_concat] at hd
      cases hd
      rw [isSolid, hblank]
      rfl
    · rfl
  · rfl

end Inertia

end Notation
end Wardley
