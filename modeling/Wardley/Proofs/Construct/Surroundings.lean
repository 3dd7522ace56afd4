import Wardley.Proofs.Construct.Concatenation
import Wardley.Proofs.Notation.Padding

/-!
# A line among others

What a line declares stands between what the lines before it declare and what the lines
behind it declare.  A reading that looks at one line at a time can therefore be followed on
a single line, whatever lines are around it.

Main definitions:

- `keywordLine`: the line of a keyword and a body.
- `Adds`: what a line adds to the outcome of a reading, whatever lines are around it.

Main results:

- `keywordBody?_keywordLine`: a keyword introduces its line.
- `adds_collect`: a line that a keyword introduces adds the outcome of its body.
- `adds_record`, `adds_fault`: what a line adds whose body is read or not.
- `links_around`: a line gives the link that it holds.
-/

namespace Wardley
namespace Construct

open Notation Text

/-! ## Lines of a keyword -/

/-- A keyword and a body with a space between them. -/
def keywordLine (keyword : String) (body : List Char) : List Char := keyword.toList ++ ' ' :: body

/-- A keyword introduces its line, however it is indented. -/
theorem keywordBody?_keywordLine {keyword : String} (hkeyword : IsKeyword keyword)
    {indent : List Char} (hindent : ∀ c ∈ indent, isBlank c = true) (body : List Char) :
    keywordBody? keyword.toList (indent ++ keywordLine keyword body) = some (trim body) := by
  have hblank : isBlank ' ' = true := by decide
  have hspace : ∀ c ∈ (' ' :: body).head?, isBlank c = true := by
    intro c hc
    cases hc
    exact hblank
  have hsolid : ∀ c ∈ keyword.toList, isBlank c = false := by
    simpa [isSolid] using hkeyword.2
  rw [keywordLine, keywordBody?_append (List.isEmpty_eq_false_iff.1 hkeyword.1) hsolid hindent
    hspace, trim_cons_blank hblank]

/-! ## Lines around a line -/

variable (before after : List (List Char)) (line : List Char)

/-- Lines around a line are numbered before and behind it. -/
theorem numbered_around :
    numbered (before ++ line :: after) = numbered before ++
      (before.length + 1, line) :: numberFrom (before.length + 2) after := by
  rw [numbered, numberFrom_append, numberFrom_cons, Nat.add_comm 1]
  rfl

/-- A line gives the link that it holds, unless it is reserved. -/
theorem links_around (keepContext : Bool) (hkept : isReserved line = false) :
    links keepContext (numbered (before ++ line :: after)) =
      links keepContext (numbered before) ++
        ((readLink? keepContext (before.length + 1) line).toList ++
          links keepContext (numberFrom (before.length + 2) after)) := by
  rw [numbered_around, links, List.filter_append, List.filter_cons_of_pos (by simp [hkept]),
    List.filterMap_append, List.filterMap_cons]
  cases readLink? keepContext (before.length + 1) line <;> rfl

/-! ## What a line adds -/

section Adds

variable {α : Type}

/-- A line adds an outcome of its own to those of the lines before it and behind it. -/
def Adds (read : List (Nat × List Char) → Outcome α) (line : List Char)
    (outcome : Nat → Outcome α) : Prop :=
  ∀ before after : List (List Char), read (numbered (before ++ line :: after)) =
    read (numbered before) ++
      (outcome (before.length + 1) ++ read (numberFrom (before.length + 2) after))

/-- A line that a keyword introduces adds the outcome of its body. -/
theorem adds_collect (read : Declaration → Except Fault α) {keyword : String}
    {line body : List Char} (hbody : keywordBody? keyword.toList line = some body) :
    Adds (fun lines => collect read (declarations [keyword] lines)) line fun number =>
      Outcome.empty.add number (read ⟨number, keyword, body⟩) := by
  intro before after
  have hdeclared : declaration? [keyword] (before.length + 1, line) =
      some ⟨before.length + 1, keyword, body⟩ := by
    rw [declaration?, List.findSome?_cons_of_isSome]
    · rw [hbody]
      rfl
    · rw [hbody]
      rfl
  dsimp only
  rw [numbered_around, declarations, List.filterMap_append, List.filterMap_cons_some hdeclared,
    collect_append, collect]
  dsimp only
  cases read ⟨before.length + 1, keyword, body⟩ with
  | ok record => rfl
  | error fault => rfl

section Read

variable {read : Declaration → Except Fault α} {keyword : String} {line body : List Char}
  (hbody : keywordBody? keyword.toList line = some body)
include hbody

/-- A line whose body is read adds its record. -/
theorem adds_record {record : Nat → α}
    (hread : ∀ number, read ⟨number, keyword, body⟩ = .ok (record number)) :
    Adds (fun lines => collect read (declarations [keyword] lines)) line fun number =>
      ⟨[record number], []⟩ := by
  have hadds := adds_collect read hbody
  simp only [hread] at hadds
  exact hadds

/-- A line whose body is not read adds a diagnostic. -/
theorem adds_fault {fault : Nat → Fault}
    (hread : ∀ number, read ⟨number, keyword, body⟩ = .error (fault number)) :
    Adds (fun lines => collect read (declarations [keyword] lines)) line fun number =>
      ⟨[], [(fault number).diagnostic number]⟩ := by
  have hadds := adds_collect read hbody
  simp only [hread] at hadds
  exact hadds

end Read

end Adds

end Construct
end Wardley
