import Wardley.Document.Calendar
import Wardley.Numeric.Number

/-!
# Literals without a value

A text may have the form of a number or of a timestamp and still have no value: it has too
many digits or none, it is too large, or it names no day of the calendar.

Main definitions:

- `LiteralError`: why a literal has no value.
- `TextError`, `WriteError`: why a text denotes no document, and why a document has no text.
-/

namespace Wardley

/-- A reason for which a literal has no value. -/
inductive LiteralError where
  /-- An integer of a base has no digits. -/
  | noDigits (base : Nat)
  /-- An integer has more digits than the limit. -/
  | tooManyDigits (count : Nat)
  /-- A place of a number is beyond the range of a double. -/
  | tooLarge
  /-- A part of a timestamp is out of range. -/
  | calendar (error : CalendarError)
  deriving DecidableEq, Repr

/-- The beginning of the messages about too many digits. -/
def digitLimitText : String :=
  "Exceeds the limit (" ++ toString Number.digitLimit ++ " digits) for integer string conversion"

/-- The end of the messages about too many digits. -/
def digitAdvice : String := "; use sys.set_int_max_str_digits() to increase the limit"

/-- The wording of an error; a number that is too large has none. -/
def LiteralError.message : LiteralError → Option String
  | noDigits base => some ("invalid literal for int() with base " ++ toString base ++ ": ''")
  | tooManyDigits count =>
    some (digitLimitText ++ ": value has " ++ toString count ++ " digits" ++ digitAdvice)
  | tooLarge => none
  | calendar error => some error.message

/-- An integer may have as many decimal digits. -/
def checkDigits (count : Nat) : Except LiteralError Unit :=
  if Number.digitLimit < count then .error (.tooManyDigits count) else .ok ()

/-- A reason for which a text denotes no document. -/
inductive TextError where
  | malformed
  | literal (error : LiteralError)
  deriving DecidableEq, Repr

/-- A reason for which a document has no text. -/
inductive WriteError where
  /-- An integer has more digits than the limit. -/
  | tooManyDigits
  /-- A timestamp stands in it, or a mapping has keys that cannot be compared. -/
  | unsupported
  deriving DecidableEq, Repr

/-- The wording of an error; a document that is not supported has none. -/
def WriteError.message : WriteError → Option String
  | tooManyDigits => some (digitLimitText ++ digitAdvice)
  | unsupported => none

end Wardley
