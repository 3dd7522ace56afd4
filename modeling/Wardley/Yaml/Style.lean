import Wardley.Text.Quoted
import Wardley.Yaml.Plain

/-!
# Styles of YAML scalars

A text is written plain when it reads back as itself, in single quotes when it is
printable ASCII with line breaks that folding keeps, and in double quotes with escapes
otherwise.  Lines longer than the width are folded at single spaces, except in the keys of
mappings that stand on the line of their value.

Main definitions:

- `Style`, `styleOf`: the style of a text.
- `writeText`: the characters of a text behind a column, with a given indentation.
-/

namespace Wardley
namespace Yaml

open Text

/-- How a text is written. -/
inductive Style where
  | plain
  | singleQuoted
  | doubleQuoted
  deriving DecidableEq, Repr

/-! ## What a text holds -/

/-- A printable ASCII character or a line feed; everything else is escaped. -/
def isOrdinary (c : Char) : Bool := c = '\n' || (0x20 ≤ c.toNat && c.toNat ≤ 0x7e)

/-- Characters that end a word: space, tab and line breaks. -/
def isSeparator (c : Char) : Bool :=
  c = ' ' || c = '\t' || c = '\r' || c = '\n' || c = '\x85' || c = '\u2028' || c = '\u2029'
    || c = '\x00'

/-- A word ends before a text. -/
def endsWord : List Char → Bool
  | [] => true
  | c :: _ => isSeparator c

/-- The first character marks something else than a plain scalar. -/
def hasLeadingMark : List Char → Bool
  | [] => false
  | c :: rest =>
    "#,[]\x7b\x7d&*!|>'\"%@\x60".toList.contains c
      || ((c = '?' || c = ':' || c = '-') && endsWord rest)

/-- A colon before a blank, or a number sign after one, stands behind the first character. -/
def hasInnerMark (previous : Char) : List Char → Bool
  | [] => false
  | c :: rest =>
    (c = ':' && endsWord rest) || (c = '#' && isSeparator previous) || hasInnerMark c rest

/-- A space stands next to a line feed, in the given order. -/
def hasAdjacent (first second : Char) : List Char → Bool
  | a :: b :: rest => (a = first && b = second) || hasAdjacent first second (b :: rest)
  | _ => false

/-- The text begins or ends with a space or a line feed. -/
def hasOuterSpace (text : List Char) : Bool :=
  let isSpace (c : Option Char) : Bool := c == some ' ' || c == some '\n'
  isSpace text.head? || isSpace text.getLast?

/-- The text could be taken for the start or the end of a document. -/
def looksLikeDocumentMark (text : List Char) : Bool :=
  startsWith "---".toList text || startsWith "...".toList text

/-- The text may be written without quotes. -/
def admitsPlain (text : List Char) : Bool :=
  !text.isEmpty && text.all isOrdinary && !text.contains '\n' && !hasOuterSpace text
    && !looksLikeDocumentMark text && !hasLeadingMark text
    && !(match text with
      | [] => false
      | c :: rest => hasInnerMark c rest)
    && readsAsText text

/-- The text may be written in single quotes. -/
def admitsSingleQuotes (text : List Char) : Bool :=
  text.all isOrdinary && !hasAdjacent ' ' '\n' text && !hasAdjacent '\n' ' ' text

/-- The style of a text. -/
def styleOf (text : List Char) : Style :=
  if admitsPlain text then .plain
  else if admitsSingleQuotes text then .singleQuoted
  else .doubleQuoted

/-! ## Folding -/

/-- The column behind which a line is folded. -/
def width : Nat := 80

/-- A line break and the indentation of the next line. -/
def newLine (indent : Nat) : List Char := '\n' :: List.replicate indent ' '

/-- The characters of a text in runs of spaces, of line feeds and of others. -/
def runs : List Char → List (List Char)
  | [] => []
  | c :: rest =>
    match runs rest with
    | (d :: run) :: others =>
      if (c = ' ') = (d = ' ') ∧ (c = '\n') = (d = '\n') then (c :: d :: run) :: others
      else [c] :: (d :: run) :: others
    | others => [c] :: others

/--
Runs written one after the other from a column on.  If lines are folded, a single space
behind the width becomes a line break, but not at the ends of the text; `n` line feeds
become `n + 1`; single quotes are doubled.
-/
def writeRuns (folds : Bool) (indent column : Nat) (first : Bool) : List (List Char) → List Char
  | [] => []
  | run :: rest =>
    if run.head? = some ' ' then
      if folds ∧ run.length = 1 ∧ width < column ∧ !first ∧ !rest.isEmpty then
        newLine indent ++ writeRuns folds indent indent false rest
      else run ++ writeRuns folds indent (column + run.length) false rest
    else if run.head? = some '\n' then
      '\n' :: (run.dropLast ++ newLine indent) ++ writeRuns folds indent indent false rest
    else
      let written := run.flatMap fun c => if c = '\'' then ['\'', '\''] else [c]
      written ++ writeRuns folds indent (column + written.length) false rest

/-- Runs of a plain scalar, which has neither line feeds nor spaces at its ends. -/
def writePlainRuns (folds : Bool) (indent column : Nat) : List (List Char) → List Char
  | [] => []
  | run :: rest =>
    if folds ∧ run = [' '] ∧ width < column then
      newLine indent ++ writePlainRuns folds indent indent rest
    else run ++ writePlainRuns folds indent (column + run.length) rest

/-! ## Escapes -/

/-- The letters behind a backslash for characters that have one. -/
def escapeLetters : List (Char × Char) :=
  [('\x00', '0'), ('\x07', 'a'), ('\x08', 'b'), ('\t', 't'), ('\n', 'n'), ('\x0b', 'v'),
   ('\x0c', 'f'), ('\r', 'r'), ('\x1b', 'e'), ('"', '"'), ('\\', '\\'), ('\x85', 'N'),
   ('\xa0', '_'), ('\u2028', 'L'), ('\u2029', 'P')]

/-- Hexadecimal digits in capitals. -/
def capitalHexadecimal (digits value : Nat) : List Char :=
  (hexadecimal digits value).map Char.toUpper

/-- The escape of a character, if it needs one. -/
def escape? (c : Char) : Option (List Char) :=
  if c != '"' && c != '\\' && 0x20 ≤ c.toNat && c.toNat ≤ 0x7e then none
  else
    match escapeLetters.lookup c with
    | some letter => some ['\\', letter]
    | none =>
      some <|
        if c.toNat ≤ 0xff then '\\' :: 'x' :: capitalHexadecimal 2 c.toNat
        else if c.toNat ≤ 0xffff then '\\' :: 'u' :: capitalHexadecimal 4 c.toNat
        else '\\' :: 'U' :: capitalHexadecimal 8 c.toNat

/-- A backslash that keeps the spaces which the next line begins with. -/
def keepSpace : List Char → List Char
  | ' ' :: _ => ['\\']
  | _ => []

/--
The inside of double quotes from a column on.  If lines are folded, one that reaches behind
the width is folded before a space and next to an escape, by a backslash at its end; `fresh`
says that an escape came last.  The first and the last character are never split off.
-/
def writeEscaped (folds : Bool) (indent column : Nat) (first fresh : Bool) :
    List Char → List Char
  | [] => []
  | c :: rest =>
    let splits := folds && !first && !rest.isEmpty
    match escape? c with
    | some escaped =>
      let reached := column + escaped.length
      if splits && width + 1 < reached then
        let kept := keepSpace rest
        escaped ++ '\\' :: (newLine indent ++ kept)
          ++ writeEscaped folds indent (indent + kept.length) false true rest
      else escaped ++ writeEscaped folds indent reached false true rest
    | none =>
      if splits && (c = ' ' || fresh) && width < column then
        let kept := keepSpace (c :: rest)
        '\\' :: (newLine indent ++ kept ++ [c])
          ++ writeEscaped folds indent (indent + kept.length + 1) false false rest
      else c :: writeEscaped folds indent (column + 1) false false rest

/-- A text in its style, its lines folded or not; `column` is that of its first character. -/
def writeText (folds : Bool) (indent column : Nat) (text : List Char) : List Char :=
  match styleOf text with
  | .plain => writePlainRuns folds indent column (runs text)
  | .singleQuoted => '\'' :: (writeRuns folds indent (column + 1) true (runs text) ++ ['\''])
  | .doubleQuoted => '"' :: (writeEscaped folds indent (column + 1) true true text ++ ['"'])

end Yaml
end Wardley
