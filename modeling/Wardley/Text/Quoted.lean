import Wardley.Text.Printable

/-!
# Quoted texts in messages

A message quotes a text in single quotes, or in double quotes when the text holds
a single quote and no double quote.  The backslash, the enclosing quote and every
character without a visible form are escaped.

Main definitions:

- `quoted`: the quoted form of a text.
-/

namespace Wardley
namespace Text

/-- Hexadecimal digits of a number, filled with zeros to a width. -/
def hexadecimal (width value : Nat) : List Char :=
  let digits := Nat.toDigits 16 value
  List.replicate (width - digits.length) '0' ++ digits

/-- A code point as `\x`, `\u` or `\U` with two, four or eight digits. -/
def codePointEscape (c : Char) : List Char :=
  if c.toNat < 0x100 then '\\' :: 'x' :: hexadecimal 2 c.toNat
  else if c.toNat < 0x10000 then '\\' :: 'u' :: hexadecimal 4 c.toNat
  else '\\' :: 'U' :: hexadecimal 8 c.toNat

/-- One character of a quoted text. -/
def quotedChar (quote c : Char) : List Char :=
  if c = quote ∨ c = '\\' then ['\\', c]
  else if c = '\n' then ['\\', 'n']
  else if c = '\r' then ['\\', 'r']
  else if c = '\t' then ['\\', 't']
  else if isPrintable c then [c]
  else codePointEscape c

/-- The quote that encloses a text. -/
def enclosingQuote (text : List Char) : Char :=
  if text.contains '\'' && !text.contains '"' then '"' else '\''

/-- The quoted form of a text. -/
def quoted (text : List Char) : List Char :=
  let quote := enclosingQuote text
  quote :: (text.flatMap (quotedChar quote) ++ [quote])

end Text
end Wardley
