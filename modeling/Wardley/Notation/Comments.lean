import Wardley.Text.Blank
import Wardley.Text.Split

/-!
# Comments

A map text may hold comments that run from `//` to the end of the line and blocks
between `/*` and `*/`.  They are erased line by line, so that the number of lines
stays and diagnostics keep naming the lines of the source.  Lines about
addresses keep their `//`.

Main definitions:

- `cleanLines`: the lines of a text without comments.
- `eraseComments`: the same as one text.

Main results:

- `length_eraseLines`: erasing keeps the number of lines.
-/

namespace Wardley
namespace Notation

open Text

/-- A line without its line comment; a line that begins with `url` has none. -/
def cutLineComment (line : List Char) : List Char :=
  if startsWith "url".toList (trim line) then line else before ['/', '/'] line

/--
The pieces of a line outside block comments, and whether a block is open at its end.
-/
def piecesOutside (inside : Bool) (line : List Char) : List (List Char) × Bool :=
  match line with
  | [] => ([], inside)
  | c :: rest =>
    if inside then
      match _h : breakAt ['*', '/'] (c :: rest) with
      | none => ([], true)
      | some (_, after) => piecesOutside false after
    else
      match _h : breakAt ['/', '*'] (c :: rest) with
      | none => ([c :: rest], false)
      | some (kept, after) =>
        let others := piecesOutside true after
        (kept :: others.1, others.2)
termination_by line.length
decreasing_by
  all_goals
    have := congrArg List.length (breakAt_append _h)
    simp at this ⊢
    omega

/-- The pieces that are not blank, trimmed and separated by single spaces. -/
def joinPieces (pieces : List (List Char)) : List Char :=
  List.intercalate [' '] ((pieces.map trim).filter fun piece => !piece.isEmpty)

/--
A line without block comments, and whether a block is open after it.  A line that
no block touches is kept as it is.
-/
def eraseBlocks (inside : Bool) (line : List Char) : List Char × Bool :=
  if !inside && !occurs ['/', '*'] line then (line, false)
  else
    let pieces := piecesOutside inside line
    (joinPieces pieces.1, pieces.2)

/-- Lines without comments, after lines that left a block open or not. -/
def eraseLines (inside : Bool) : List (List Char) → List (List Char)
  | [] => []
  | line :: rest =>
    let erased := eraseBlocks inside (cutLineComment line)
    erased.1 :: eraseLines erased.2 rest

/-- Erasing blocks keeps the number of lines. -/
@[simp] theorem length_eraseLines (inside : Bool) (lines : List (List Char)) :
    (eraseLines inside lines).length = lines.length := by
  induction lines generalizing inside with
  | nil => rfl
  | cons line rest ih => simp [eraseLines, ih]

/-- The lines of a text without comments. -/
def cleanLines (text : List Char) : List (List Char) := eraseLines false (lines text)

/-- A text without comments. -/
def eraseComments (text : List Char) : List Char := List.intercalate ['\n'] (cleanLines text)

end Notation
end Wardley
