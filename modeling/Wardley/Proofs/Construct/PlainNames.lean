import Mathlib.Data.Bool.AllAny
import Wardley.Proofs.Construct.WrittenLinks
import Wardley.Proofs.Notation.Declarations
import Wardley.Proofs.Notation.NamedPlace

/-!
# Lines about plain names

A plain name holds no character that means something in a declaration or a link, and no
reserved word stands in front of it.  A line that declares it therefore declares just the
name with its place, and an arrow between two plain names is a link between the names as
they are written.

Main definitions:

- `IsPlain`: a name that can be declared and linked.
- `declaringLine`, `linkingLine`: lines about plain names.

Main results:

- `IsPlain.readLink?_arrow`: the link that an arrow between plain names gives.
- `IsPlain.keywordBody?_declaringLine`: what the declaration of a plain name declares.
-/

namespace Wardley

open Construct Notation Text

/-! ## Plain names -/

/-- The characters that mean something in a declaration or a link. -/
def markup : List Char :=
  ['\n', '[', ']', '(', ')', '{', '}', ';', '+', '/', '\'', '<', '>']

/-- A name that can be declared and linked: without markup and reserved words in front. -/
structure IsPlain (name : List Char) : Prop where
  ne_nil : name ≠ []
  trim_eq : trim name = name
  not_mem : ∀ c ∈ name, c ∉ markup
  word : firstWord name ∉ reservedKeywords

-- `List.all` keeps the test to the name, instead of a search through all characters.
instance (name : List Char) : Decidable (IsPlain name) :=
  decidable_of_iff
    (name ≠ [] ∧ trim name = name ∧ name.all (· ∉ markup) ∧ firstWord name ∉ reservedKeywords)
    ⟨fun h => ⟨h.1, h.2.1, List.all_iff_forall_prop.1 h.2.2.1, h.2.2.2⟩,
      fun h => ⟨h.ne_nil, h.trim_eq, List.all_iff_forall_prop.2 h.not_mem, h.word⟩⟩

/-- The line that declares a name in the centre of a map. -/
def declaringLine (name : List Char) : List Char :=
  "component".toList ++ ' ' :: (name ++ ' ' :: centre)

/-- The line that links two names. -/
def linkingLine (start finish : List Char) : List Char := start ++ ['-', '>'] ++ finish

/-! ## Links -/

namespace IsPlain

variable {name start finish : List Char}

theorem notMem (h : IsPlain name) {c : Char} (hc : c ∈ markup) : c ∉ name :=
  fun hmem => h.not_mem c hmem hc

/-- A link between plain names is on a trimmed line. -/
theorem trim_linkingLine (hstart : IsPlain start) (hfinish : IsPlain finish) :
    trim (linkingLine start finish) = linkingLine start finish := by
  rw [linkingLine, List.append_assoc]
  exact trim_between hstart.trim_eq hstart.ne_nil hfinish.trim_eq hfinish.ne_nil _

/-- A link between plain names has no markup but its arrow. -/
theorem notMem_linkingLine (hstart : IsPlain start) (hfinish : IsPlain finish) {c : Char}
    (hc : c ∈ markup) (harrow : c ∉ ['-', '>']) : c ∉ linkingLine start finish := by
  rw [linkingLine, List.mem_append, List.mem_append]
  rintro ((hmem | hmem) | hmem)
  · exact hstart.notMem hc hmem
  · exact harrow hmem
  · exact hfinish.notMem hc hmem

/-- No reserved word begins a link between plain names. -/
theorem firstWord_linkingLine (hstart : IsPlain start) (hfinish : IsPlain finish) :
    firstWord (linkingLine start finish) ∉ reservedKeywords := by
  rw [firstWord, trim_linkingLine hstart hfinish, linkingLine, List.append_assoc,
    List.takeWhile_append]
  split
  · -- the first word goes on behind the name and takes the arrow with it
    intro hmem
    have hnone : ∀ keyword ∈ reservedKeywords, '>' ∉ keyword.toList := by decide
    refine hnone _ hmem ?_
    have hdash : isSolid '-' = true := by decide
    have harrow : isSolid '>' = true := by decide
    simp [hdash, harrow]
  · have hword := hstart.word
    rwa [firstWord, hstart.trim_eq] at hword

/-- An arrow between plain names is written between parts that can be told apart. -/
theorem isReadable (hstart : IsPlain start) (hfinish : IsPlain finish) :
    WrittenLink.IsReadable ⟨start, .dependency, finish, none⟩ where
  start_ne_nil := hstart.ne_nil
  trim_start := hstart.trim_eq
  noOperator := hasNoOperator_of_not_mem fun c hc hmem => by
    have hsubset : ['<', '>', '\''] ⊆ markup := by decide
    exact hstart.notMem (hsubset hc) hmem
  finish_ne_nil := hfinish.ne_nil
  trim_finish := hfinish.trim_eq
  noQuote := by simp [Sign.value?]
  noSemicolon := by
    have hsemicolon := notMem_linkingLine hstart hfinish (c := ';') (by decide) (by decide)
    rwa [linkingLine, List.append_assoc] at hsemicolon
  notBoth := by simp [Sign.isOpen]

/-- An arrow between plain names is a link between the names as they are written. -/
theorem readLink?_arrow (hstart : IsPlain start) (hfinish : IsPlain finish) (keepContext : Bool)
    (number : Nat) :
    readLink? keepContext number (linkingLine start finish) =
      some {
        start := String.ofList start
        finish := String.ofList finish
        line := some (.int number) } := by
  have hread := (isReadable hstart hfinish).readLink?_line keepContext number
  rw [WrittenLink.line, WrittenLink.core, Sign.text, ← List.append_assoc] at hread
  rw [linkingLine, hread]
  simp [WrittenLink.link, keptContext, Sign.operator, Sign.value?, Operator.dependency]

/-! ## Declarations -/

/-- A plain name has a word. -/
theorem words_ne_nil (h : IsPlain name) : words name ≠ [] := by
  have hsolid : ¬ ∀ c ∈ name, isBlank c = true := by
    rw [← trim_eq_nil_iff, h.trim_eq]
    exact h.ne_nil
  push Not at hsolid
  rcases hsolid with ⟨c, hc, hblank⟩
  exact Text.words_ne_nil hc (Bool.eq_false_iff.2 hblank)

/-- A declaration of a plain name has little markup. -/
theorem notMem_declaringLine (h : IsPlain name) {c : Char} (hc : c ∈ ['\n', '{', '/']) :
    c ∉ declaringLine name := by
  have hsubset : ['\n', '{', '/'] ⊆ markup := by decide
  have hmarkup : c ∈ markup := hsubset hc
  have hends : ['\n', '{', '/'].all
      fun d => d ∉ "component".toList ∧ d ≠ ' ' ∧ d ∉ centre := by decide
  rcases List.all_iff_forall_prop.1 hends c hc with ⟨hword, hspace, hplace⟩
  unfold declaringLine
  rw [List.mem_append, List.mem_cons, List.mem_append, List.mem_cons]
  rintro (hmem | heq | hmem | heq | hmem)
  · exact hword hmem
  · exact hspace heq
  · exact h.notMem hmarkup hmem
  · exact hspace heq
  · exact hplace hmem

/-- What is declared is the name with its place. -/
theorem keywordBody?_declaringLine (h : IsPlain name) :
    keywordBody? "component".toList (declaringLine name) = some (name ++ ' ' :: centre) := by
  have hcentre : trim centre = centre := by decide
  have hne : centre ≠ [] := by decide
  have hkeyword : trim "component".toList = "component".toList := by decide
  have hbody : trim (name ++ ' ' :: centre) = name ++ ' ' :: centre :=
    trim_between h.trim_eq h.ne_nil hcentre hne [' ']
  have hline : trim (declaringLine name) = declaringLine name := by
    have hbetween := trim_between hkeyword (by decide) hcentre hne (' ' :: (name ++ [' ']))
    rwa [List.cons_append, List.append_assoc, List.singleton_append] at hbetween
  have hafter : afterPrefix "component".toList (declaringLine name) =
      some (' ' :: (name ++ ' ' :: centre)) := afterPrefix_eq_some.2 rfl
  have hspace : isBlank ' ' = true := by decide
  rw [keywordBody?, hline, hafter]
  simp only [hspace, hbody, if_true]

theorem firstWord_declaringLine (h : IsPlain name) :
    firstWord (declaringLine name) = "component" := by
  have hkeyword : IsKeyword "component" := by decide
  have hword := (keywordBody?_eq_some_iff (List.all_eq_true.1 hkeyword.2)).1
    (keywordBody?_declaringLine h)
  rw [firstWord, hword.1, String.ofList_toList]

end IsPlain

end Wardley
