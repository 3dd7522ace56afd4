import Wardley.Notation.Keyword

/-!
# Blocks of pipelines

A pipeline header may be followed by a block in braces.  The opening brace stands on
the header line or begins the next line that is not blank; the block ends at the
first closing brace after it, or with the text.

Main definitions:

- `Block`: the positions of a header, its opening and its closing line.
- `blocks`: all blocks of a list of lines.
- `isOwned`: the line at a position belongs to a block.
-/

namespace Wardley
namespace Notation

open Text

/-- Positions, counted from zero, of the lines that delimit a block. -/
structure Block where
  header : Nat
  opening : Nat
  /-- The closing line; the number of lines if the block never ends. -/
  closing : Nat
  deriving DecidableEq, Repr

/-- A pipeline header. -/
def isHeader (line : List Char) : Bool := (keywordBody? "pipeline".toList line).isSome

/-- What follows the first opening brace of a line. -/
def afterBrace (line : List Char) : List Char := (line.dropWhile (· != '{')).drop 1

/-- How many lines after its opening line a block closes. -/
def closingDistance (opening : List Char) (rest : List (List Char)) : Nat :=
  if (afterBrace opening).contains '}' then 0
  else (rest.takeWhile fun line => !line.contains '}').length + 1

/-- The blank lines that a list of lines begins with. -/
def leadingBlank (lines : List (List Char)) : Nat := (lines.takeWhile isAllBlank).length

/--
The blocks of lines of which the first has the given position.  After a block the
search goes on behind its closing line.
-/
def blocksFrom (position : Nat) (lines : List (List Char)) : List Block :=
  match lines with
  | [] => []
  | line :: rest =>
    if !isHeader line then blocksFrom (position + 1) rest
    else if line.contains '{' then
      let distance := closingDistance line rest
      ⟨position, position, position + distance⟩
        :: blocksFrom (position + distance + 1) (rest.drop distance)
    else
      match _h : rest.drop (leadingBlank rest) with
      | [] => blocksFrom (position + 1) rest
      | next :: others =>
        if startsWith ['{'] (trim next) then
          let opening := position + 1 + leadingBlank rest
          let distance := closingDistance next others
          ⟨position, opening, opening + distance⟩
            :: blocksFrom (opening + distance + 1) (others.drop distance)
        else blocksFrom (position + 1) rest
termination_by lines.length
decreasing_by
  · simp only [List.length_cons]
    omega
  · simp only [List.length_cons, List.length_drop]
    omega
  · simp only [List.length_cons]
    omega
  · have := congrArg List.length _h
    simp at this ⊢
    omega
  · simp

/-- The blocks of a list of lines, in order. -/
def blocks (lines : List (List Char)) : List Block := blocksFrom 0 lines

/-- The position lies between the opening and the closing line, both included. -/
def Block.owns (block : Block) (position : Nat) : Bool :=
  block.opening ≤ position && position ≤ block.closing

/-- The position lies strictly between the opening and the closing line. -/
def Block.encloses (block : Block) (position : Nat) : Bool :=
  block.opening < position && position < block.closing

/-- The line at a position belongs to a block. -/
def isOwned (found : List Block) (position : Nat) : Bool :=
  found.any fun block => block.owns position

/-- The positions of all lines that belong to a block. -/
def ownedPositions (lines : List (List Char)) : List Nat :=
  (List.range lines.length).filter (isOwned (blocks lines))

end Notation
end Wardley
