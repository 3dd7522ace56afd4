import Wardley.Notation.Numeral
import Wardley.Text.Word

/-!
# Clauses of a declaration

The body of a declaration is a name with clauses around it: coordinates in brackets,
a label offset, a reference to an address, groups of decorators in parentheses and the
bare word `inertia` at the end.  Each clause is cut out of the body on its own.

Main definitions:

- `splitBrackets?`: the body around its only leading bracket group.
- `takeLabel`, `takeUrl`: the first label or address clause and the body without it.
- `takeDecorators`: the decorator groups and the body without them.
- `dropInertia`: the body without a final `inertia`.
- `splitPosition`: name, position and rest of a body.
-/

namespace Wardley
namespace Notation

open Text

/-! ## Brackets -/

/-- The character is no square bracket. -/
def isNoBracket (c : Char) : Bool := c != '[' && c != ']'

/-- The character is no parenthesis. -/
def isNoParenthesis (c : Char) : Bool := c != '(' && c != ')'

/-- The content of a bracket group that the text starts with, and what follows it. -/
def takeBrackets? : List Char → Option (List Char × List Char)
  | '[' :: rest =>
    match rest.dropWhile isNoBracket with
    | ']' :: after => some (rest.takeWhile isNoBracket, after)
    | _ => none
  | _ => none

/-- The content of a parenthesis group that the text starts with, and what follows it. -/
def takeParentheses? : List Char → Option (List Char × List Char)
  | '(' :: rest =>
    match rest.dropWhile isNoParenthesis with
    | ')' :: after => some (rest.takeWhile isNoParenthesis, after)
    | _ => none
  | _ => none

/--
The text before the first bracket, the content of the group that opens there, and the
rest, which is on one line.
-/
def splitBrackets? (body : List Char) : Option (List Char × List Char × List Char) :=
  match takeBrackets? (body.dropWhile isNoBracket) with
  | some (content, rest) =>
    if rest.dropLast.contains '\n' then none
    else some (trimEnd (body.takeWhile isNoBracket), content, rest)
  | none => none

/-! ## Clauses introduced by a word -/

/--
The first clause that a word introduces: the text before the word, what the clause
holds and the text after it.  The word does not continue a longer one.
-/
def findClause {α : Type} (word : List Char) (clause : List Char → Option (α × List Char))
    (continued : Bool) : List Char → Option (List Char × α × List Char)
  | [] => none
  | c :: rest =>
    let here :=
      if continued then none
      else (afterPrefix word (c :: rest)).bind clause
    match here with
    | some (value, after) => some ([], value, after)
    | none =>
      (findClause word clause (isWord c) rest).map fun found =>
        (c :: found.1, found.2.1, found.2.2)

/-- The texts around a clause, with a space in its place and the ends trimmed. -/
def closeGap (before after : List Char) : List Char := trim (before ++ ' ' :: after)

/-- The label offset of a body and the body without the clause. -/
def takeLabel (body : List Char) : Except Fault (Option Label × List Char) :=
  match findClause "label".toList (fun text => takeBrackets? (trimStart text)) false body with
  | none => .ok (none, body)
  | some (before, content, after) => do
    let (x, y) ← readPair "label offset" content
    pure (some ⟨.float x, .float y⟩, closeGap before after)

/-- The address that a body refers to and the body without the clause. -/
def takeUrl (body : List Char) : Option (List Char) × List Char :=
  match findClause "url".toList (fun text => takeParentheses? (trimStart text)) false body with
  | none => (none, body)
  | some (before, content, after) =>
    let name := trim content
    (if name.isEmpty then none else some name, closeGap before after)

/-! ## Decorator groups -/

/-- A part of a body: a character, or a parenthesis group without inner parentheses. -/
inductive Piece where
  | char (c : Char)
  | group (content : List Char)
  deriving DecidableEq, Repr

/-- Taking a group makes the text shorter. -/
theorem takeParentheses?_length {text content after : List Char}
    (h : takeParentheses? text = some (content, after)) : after.length < text.length := by
  unfold takeParentheses? at h
  split at h
  · rename_i rest
    split at h
    · rename_i tail ht
      cases h
      have hl : (rest.dropWhile isNoParenthesis).length ≤ rest.length :=
        (List.dropWhile_sublist isNoParenthesis).length_le
      rw [ht] at hl
      simp at hl ⊢
      omega
    · cases h
  · cases h

/-- A body as characters and parenthesis groups, from left to right. -/
def pieces (body : List Char) : List Piece :=
  match body with
  | [] => []
  | c :: rest =>
    match _h : takeParentheses? (c :: rest) with
    | some (content, after) => .group content :: pieces after
    | none => .char c :: pieces rest
termination_by body.length
decreasing_by
  · exact takeParentheses?_length _h
  · simp

/-- What a word of a decorator group says. -/
inductive Mark where
  | decorator (d : Decorator)
  | inertia
  deriving DecidableEq, Repr

/-- The mark that a word stands for. -/
def Mark.ofWord? (word : List Char) : Option Mark :=
  if word = "inertia".toList then some .inertia
  else (Decorator.ofWord? word).map Mark.decorator

/-- The words of a group that are not blank. -/
def groupWords (content : List Char) : List (List Char) :=
  ((List.splitOn ',' content).map trim).filter fun word => !word.isEmpty

/-- The marks of a piece; none unless it is a group of marks and nothing else. -/
def Piece.marks : Piece → List Mark
  | .char _ => []
  | .group content => ((groupWords content).mapM Mark.ofWord?).getD []

/-- The text that a piece leaves behind. -/
def Piece.remains (piece : Piece) : List Char :=
  if !piece.marks.isEmpty then [' ']
  else
    match piece with
    | .char c => [c]
    | .group content => '(' :: (content ++ [')'])

/-- Adds a mark to the decorators written so far. -/
def Mark.apply (flags : Option Decorators) : Mark → Option Decorators
  | .inertia => flags
  | .decorator d => some ((flags.getD .unset).mark d)

/-- What the decorator groups of a body say, and the body without them. -/
structure Decoration where
  decorators : Option Decorators
  inertia : Bool
  rest : List Char
  deriving DecidableEq, Repr

/-- Reads the decorator groups of a body. -/
def takeDecorators (body : List Char) : Decoration :=
  let parts := pieces body
  let marks := parts.flatMap Piece.marks
  { decorators := marks.foldl Mark.apply none
    inertia := marks.contains .inertia
    rest := collapse (parts.flatMap Piece.remains) }

/-! ## Inertia and position -/

/-- The text without a final word `inertia`, and whether it had one. -/
def dropInertia (text : List Char) : List Char × Bool :=
  match afterPrefix "inertia".toList.reverse (trimEnd text).reverse with
  | some [] => ([], true)
  | some (c :: rest) => if isBlank c then (trim rest.reverse, true) else (text, false)
  | none => (text, false)

/-- The name, the position and the rest of a body. -/
structure Placement where
  name : List Char
  /-- Visibility and maturity. -/
  position : Option (Double × Double)
  rest : List Char
  deriving DecidableEq, Repr

/-- Splits a body at its bracket group; a body without brackets is a name. -/
def splitPosition (body : List Char) : Except Fault Placement :=
  if body.all isNoBracket then .ok ⟨trim body, none, []⟩
  else
    match splitBrackets? body with
    | none => .error .unbalancedBrackets
    | some (name, content, rest) => do
      let position ← readPair "coordinate" content
      pure ⟨trim name, some position, trim rest⟩

end Notation
end Wardley
