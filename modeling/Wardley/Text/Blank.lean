/-!
# Blank characters

The map notation, and every trimming of a field, uses the Unicode white space
characters together with the four information separators.  Zero-width
characters are not blank.

Main definitions:

- `isBlank`: the character class.
- `trimStart`, `trimEnd`, `trim`: a text without blanks at its ends.
- `words`: the maximal runs of characters that are not blank.
-/

namespace Wardley
namespace Text

/-- The intervals of blank code points, in increasing order. -/
def blankRanges : List (Nat × Nat) :=
  [(0x09, 0x0d), (0x1c, 0x20), (0x85, 0x85), (0xa0, 0xa0), (0x1680, 0x1680), (0x2000, 0x200a),
   (0x2028, 0x2029), (0x202f, 0x202f), (0x205f, 0x205f), (0x3000, 0x3000)]

/-- White space and information separators. -/
def isBlank (c : Char) : Bool :=
  blankRanges.any fun range => range.1 ≤ c.toNat && c.toNat ≤ range.2

/-! ## Trimming -/

/-- The text from its first character that is not blank. -/
def trimStart (text : List Char) : List Char := text.dropWhile isBlank

/-- The text up to its last character that is not blank. -/
def trimEnd : List Char → List Char
  | [] => []
  | c :: rest =>
    match trimEnd rest with
    | [] => if isBlank c then [] else [c]
    | kept => c :: kept

/-- The text without the blanks at its ends. -/
def trim (text : List Char) : List Char := trimEnd (trimStart text)

@[simp] theorem trimStart_nil : trimStart [] = [] := rfl

@[simp] theorem trimEnd_nil : trimEnd [] = [] := rfl

@[simp] theorem trim_nil : trim [] = [] := rfl

/-- The text has no character but blanks. -/
def isAllBlank (text : List Char) : Bool := text.all isBlank

/-! ## Words -/

/-- The words of a text, split at runs of blanks. -/
def words : List Char → List (List Char)
  | [] => []
  | c :: rest =>
    if isBlank c then words rest
    else
      match rest, words rest with
      | d :: _, word :: others =>
        if isBlank d then [c] :: word :: others else (c :: word) :: others
      | _, _ => [[c]]

@[simp] theorem words_nil : words [] = [] := rfl

/-- The words of a text with single spaces between them. -/
def collapse (text : List Char) : List Char := List.intercalate [' '] (words text)

end Text
end Wardley
