/-!
# Source files

A file holds a text in UTF-8.  Line ends are unified when it is read: a carriage return
with or without a line feed behind it is a line feed.

Main definitions:

- `decodeFile`: the text of the bytes of a file.
-/

namespace Wardley

/-- The bytes of a file are no UTF-8. -/
inductive DecodeError where
  | invalid
  deriving DecidableEq, Repr

/-- A text with a line feed for every line end. -/
def unifyLineEnds : List Char → List Char
  | [] => []
  | '\r' :: '\n' :: rest => '\n' :: unifyLineEnds rest
  | '\r' :: rest => '\n' :: unifyLineEnds rest
  | c :: rest => c :: unifyLineEnds rest

/-- The text of the bytes of a file. -/
def decodeFile (bytes : ByteArray) : Except DecodeError String :=
  match String.fromUTF8? bytes with
  | some text => .ok (String.ofList (unifyLineEnds text.toList))
  | none => .error .invalid

end Wardley
