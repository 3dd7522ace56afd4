import Wardley.Document.Literal
import Wardley.Document.Order
import Wardley.Text.Split

/-!
# JSON

JSON is written on one line with sorted keys, and every character outside printable
ASCII escaped.  It is read as the standard says, except that `NaN`, `Infinity` and
`-Infinity` are numbers; of repeated keys the last one counts.

Main definitions:

- `Document.json`: the JSON text of a document.
- `Document.ofJson`: the document of a JSON text.
-/

namespace Wardley

/-- Number texts of JSON. -/
def FloatLayout.json : FloatLayout := ⟨"Infinity", "NaN", false⟩

namespace Json

/-! ## Writing -/

/-- A code unit as `\u` with four hexadecimal digits. -/
def unitEscape (unit : Nat) : List Char := '\\' :: 'u' :: Text.hexadecimal 4 unit

/-- One character of a JSON string; those above the basic plane take two units. -/
def writeChar (c : Char) : List Char :=
  if c = '"' then ['\\', '"']
  else if c = '\\' then ['\\', '\\']
  else if c = '\n' then ['\\', 'n']
  else if c = '\r' then ['\\', 'r']
  else if c = '\t' then ['\\', 't']
  else if c = '\x08' then ['\\', 'b']
  else if c = '\x0c' then ['\\', 'f']
  else if 0x20 ≤ c.toNat ∧ c.toNat < 0x7f then [c]
  else if c.toNat < 0x10000 then unitEscape c.toNat
  else
    let offset := c.toNat - 0x10000
    unitEscape (0xd800 + offset / 0x400) ++ unitEscape (0xdc00 + offset % 0x400)

/-- A JSON string. -/
def writeString (text : List Char) : List Char :=
  '"' :: (text.flatMap writeChar ++ ['"'])

/-- A scalar in JSON; a timestamp would be a string. -/
def writeScalar : Scalar → List Char
  | .null => "null".toList
  | .bool true => "true".toList
  | .bool false => "false".toList
  | .number value => (value.text .json).toList
  | .text value => writeString value.toList
  | .timestamp value => writeString value.text.toList

/-- The text of a mapping key. -/
def keyText : Scalar → String
  | .text value => value
  | other => String.ofList (writeScalar other)

mutual

/-- A document in JSON, with its mappings as they are. -/
def write : Document → List Char
  | .scalar value => writeScalar value
  | .list [] => ['[', ']']
  | .list (item :: rest) => '[' :: (write item ++ writeItems rest)
  | .mapping [] => ['\x7b', '\x7d']
  | .mapping ((key, value) :: rest) =>
    '\x7b' :: (writeString (keyText key).toList ++ ':' :: ' ' :: (write value ++ writeEntries rest))

/-- The items of a list after the first, and its end. -/
def writeItems : List Document → List Char
  | [] => [']']
  | item :: rest => ',' :: ' ' :: (write item ++ writeItems rest)

/-- The entries of a mapping after the first, and its end. -/
def writeEntries : List (Scalar × Document) → List Char
  | [] => ['\x7d']
  | (key, value) :: rest =>
    ',' :: ' ' ::
      (writeString (keyText key).toList ++ ':' :: ' ' :: (write value ++ writeEntries rest))

end

/-- A scalar that JSON cannot have. -/
def scalarError? : Scalar → Option WriteError
  | .number value => if value.hasText then none else some .tooManyDigits
  | .timestamp _ => some .unsupported
  | _ => none

mutual

/-- The first reason for which a document cannot be written. -/
def error? : Document → Option WriteError
  | .scalar value => scalarError? value
  | .list items => itemsError? items
  | .mapping entries =>
    if Scalar.areOrdered (Document.keys entries) then entriesError? entries
    else some .unsupported

/-- The first reason for which items cannot be written. -/
def itemsError? : List Document → Option WriteError
  | [] => none
  | item :: rest => (error? item).or (itemsError? rest)

/-- The first reason for which entries cannot be written. -/
def entriesError? : List (Scalar × Document) → Option WriteError
  | [] => none
  | (key, value) :: rest => (scalarError? key).or ((error? value).or (entriesError? rest))

end

/-! ## Reading -/

/-- The characters that may stand between tokens. -/
def isSpace (c : Char) : Bool := c = ' ' || c = '\t' || c = '\n' || c = '\r'

/-- A text from its first character that is not space. -/
def skipSpace (text : List Char) : List Char := text.dropWhile isSpace

/-- The value of a hexadecimal digit. -/
def hexDigit? (c : Char) : Option Nat :=
  if '0' ≤ c ∧ c ≤ '9' then some (c.toNat - '0'.toNat)
  else if 'a' ≤ c ∧ c ≤ 'f' then some (c.toNat - 'a'.toNat + 10)
  else if 'A' ≤ c ∧ c ≤ 'F' then some (c.toNat - 'A'.toNat + 10)
  else none

/-- Four hexadecimal digits and the rest. -/
def takeUnit? : List Char → Option (Nat × List Char)
  | a :: b :: c :: d :: rest => do
    let w ← hexDigit? a
    let x ← hexDigit? b
    let y ← hexDigit? c
    let z ← hexDigit? d
    pure (((w * 16 + x) * 16 + y) * 16 + z, rest)
  | _ => none

/-- The character behind `\u`; a leading surrogate joins the trailing one that follows. -/
def takeEscapedUnit? (text : List Char) : Option (Char × List Char) := do
  let (unit, rest) ← takeUnit? text
  if 0xd800 ≤ unit ∧ unit < 0xdc00 then
    match rest with
    | '\\' :: 'u' :: more =>
      let (low, others) ← takeUnit? more
      if 0xdc00 ≤ low ∧ low < 0xe000 then
        pure (Char.ofNat (0x10000 + (unit - 0xd800) * 0x400 + (low - 0xdc00)), others)
      else none
    | _ => none
  else pure (Char.ofNat unit, rest)

/-- The character that a letter behind a backslash stands for. -/
def shortEscape? (c : Char) : Option Char :=
  if c = '"' then some '"'
  else if c = '\\' then some '\\'
  else if c = '/' then some '/'
  else if c = 'b' then some '\x08'
  else if c = 'f' then some '\x0c'
  else if c = 'n' then some '\n'
  else if c = 'r' then some '\r'
  else if c = 't' then some '\t'
  else none

/--
The characters up to a quote that no backslash stands before, with escapes as they are
written, and what follows the quote.
-/
def takeRaw? : List Char → Option (List Char × List Char)
  | [] => none
  | '"' :: rest => some ([], rest)
  | '\\' :: c :: rest => (takeRaw? rest).map fun found => ('\\' :: c :: found.1, found.2)
  | c :: rest => (takeRaw? rest).map fun found => (c :: found.1, found.2)

/-- The text of the inside of a string, of which every character or escape takes a step. -/
def unescape? : Nat → List Char → Option (List Char)
  | _, [] => some []
  | 0, _ => none
  | fuel + 1, c :: rest =>
    if c = '\\' then
      match rest with
      | [] => none
      | d :: more => do
        let (found, others) ←
          if d = 'u' then takeEscapedUnit? more
          else (shortEscape? d).map fun short => (short, more)
        pure (found :: (← unescape? fuel others))
    else if c.toNat < 0x20 then none
    else (unescape? fuel rest).map fun text => c :: text

/-- The rest of a string behind its opening quote, and what follows the closing one. -/
def takeString (text : List Char) : Except TextError (List Char × List Char) :=
  match takeRaw? text with
  | none => .error .malformed
  | some (raw, rest) =>
    match unescape? raw.length raw with
    | some found => .ok (found, rest)
    | none => .error .malformed

/-- Leading ASCII digits and the rest. -/
def takeDigits (text : List Char) : List Char × List Char := text.span Char.isDigit

/-- The natural number that ASCII digits denote. -/
def natural (digits : List Char) : Nat :=
  digits.foldl (fun total c => total * 10 + (c.toNat - '0'.toNat)) 0

/-- The digits of a fraction, none without a point that digits follow, and the rest. -/
def takeFraction : List Char → List Char × List Char
  | '.' :: rest =>
    match takeDigits rest with
    | ([], _) => ([], '.' :: rest)
    | found => found
  | rest => ([], rest)

/-- A minus sign that a text starts with, and the rest. -/
def takeMinus : List Char → Bool × List Char
  | '-' :: rest => (true, rest)
  | rest => (false, rest)

/-- The sign that an exponent starts with, and the rest. -/
def takeSign : List Char → Bool × List Char
  | '+' :: rest => (false, rest)
  | rest => takeMinus rest

/-- The digits of a whole number, to which a leading zero lets no other belong, and the rest. -/
def takeWhole : List Char → List Char × List Char
  | '0' :: rest => (['0'], rest)
  | rest => takeDigits rest

/-- The value of an exponent that a text starts with, and the rest. -/
def takeExponent (text : List Char) : Option Int × List Char :=
  match text with
  | c :: rest =>
    if c = 'e' ∨ c = 'E' then
      let (negative, unsigned) := takeSign rest
      match takeDigits unsigned with
      | ([], _) => (none, text)
      | (digits, after) =>
        let value : Int := natural digits
        (some (if negative then -value else value), after)
    else (none, text)
  | [] => (none, [])

/--
The number that a text starts with: whole digits without a leading zero, a fraction and
an exponent.
-/
def takeNumber (text : List Char) : Except TextError (Number × List Char) :=
  let (negative, unsigned) := takeMinus text
  let (whole, rest) := takeWhole unsigned
  if whole.isEmpty then .error .malformed
  else
    let (fraction, afterFraction) := takeFraction rest
    let (exponent, after) := takeExponent afterFraction
    if fraction.isEmpty && exponent.isNone then
      match checkDigits whole.length with
      | .error error => .error (.literal error)
      | .ok _ =>
        let value : Int := natural whole
        .ok (.int (if negative then -value else value), after)
    else
      let decimal : Decimal :=
        ⟨negative, natural (whole ++ fraction), exponent.getD 0 - fraction.length⟩
      .ok (.float (.ofDecimal decimal), after)

/-- The payload of what is not a number in a JSON text. -/
def nanPayload : Nat := 1

/-- The words that stand for values. -/
def wordValues : List (String × Scalar) :=
  [("null", .null), ("true", .bool true), ("false", .bool false),
   ("NaN", .number (.float (.nan nanPayload))),
   ("Infinity", .number (.float (.infinity false))),
   ("-Infinity", .number (.float (.infinity true)))]

/-- The value of the word that a text starts with, and the rest. -/
def takeWord? (text : List Char) : Option (Scalar × List Char) :=
  wordValues.findSome? fun (entry : String × Scalar) =>
    (Text.afterPrefix entry.1.toList text).map fun rest => (entry.2, rest)

/-- The word or the number that a text starts with, and the rest. -/
def takeLeaf (text : List Char) : Except TextError (Scalar × List Char) :=
  match takeWord? text with
  | some found => .ok found
  | none => (takeNumber text).map fun found => (.number found.1, found.2)

mutual

/-- The value that a text starts with, and the rest. -/
def takeValue : Nat → List Char → Except TextError (Document × List Char)
  | 0, _ => .error .malformed
  | fuel + 1, text =>
    match text with
    | '"' :: rest => do
      let (found, after) ← takeString rest
      pure (.text (String.ofList found), after)
    | '[' :: rest =>
      match skipSpace rest with
      | ']' :: after => .ok (.list [], after)
      | first => do
        let (items, after) ← takeItems fuel first
        pure (.list items, after)
    | '\x7b' :: rest =>
      match skipSpace rest with
      | '\x7d' :: after => .ok (.mapping [], after)
      | first => do
        let (entries, after) ← takeEntries fuel [] first
        pure (.mapping entries, after)
    | other => (takeLeaf other).map fun found => (.scalar found.1, found.2)

/-- The items of a list from one that must follow to the closing bracket. -/
def takeItems : Nat → List Char → Except TextError (List Document × List Char)
  | 0, _ => .error .malformed
  | fuel + 1, text => do
    let (item, rest) ← takeValue fuel text
    match skipSpace rest with
    | ']' :: after => pure ([item], after)
    | ',' :: more =>
      let (items, after) ← takeItems fuel (skipSpace more)
      pure (item :: items, after)
    | _ => throw .malformed

/-- The entries of a mapping from one that must follow to the closing brace. -/
def takeEntries : Nat → List (Scalar × Document) → List Char →
    Except TextError (List (Scalar × Document) × List Char)
  | 0, _, _ => .error .malformed
  | fuel + 1, seen, text =>
    match text with
    | '"' :: quoted => do
      let (key, afterKey) ← takeString quoted
      match skipSpace afterKey with
      | ':' :: beforeValue =>
        let (value, rest) ← takeValue fuel (skipSpace beforeValue)
        let entries := Document.put (.text (String.ofList key)) value seen
        match skipSpace rest with
        | '\x7d' :: after => pure (entries, after)
        | ',' :: more => takeEntries fuel entries (skipSpace more)
        | _ => throw .malformed
      | _ => throw .malformed
    | _ => .error .malformed

end

/-- The document of a whole text. -/
def read (text : List Char) : Except TextError Document := do
  let (document, rest) ← takeValue (text.length + 1) (skipSpace text)
  if (skipSpace rest).isEmpty then pure document else throw .malformed

end Json

namespace Document

/-- The JSON text of a document, its keys sorted. -/
def json (document : Document) : Except WriteError String :=
  match Json.error? document.sorted with
  | some error => .error error
  | none => .ok (String.ofList (Json.write document.sorted))

/-- The document of a JSON text. -/
def ofJson (text : String) : Except TextError Document := Json.read text.toList

end Document

end Wardley
