import Wardley.Document.Json
import Wardley.Yaml.Style

/-!
# Tokens of YAML texts

A YAML text is a sequence of tokens.  Indentation opens and closes block collections, and a
scalar or a flow collection turns out to be a key only when a colon follows it on the
same line; the tokens of a key are then inserted before it.  Directives, tags, anchors and block
scalars are not read: a text that has one is malformed.

Main definitions:

- `Token`: the tokens.
- `Cursor`: a place in a text.
- `Scanner`: the state between two tokens.
- `tokens`: the tokens of a text.
-/

namespace Wardley
namespace Yaml

/-- The text is no YAML of the kind that is read. -/
inductive Malformed where
  | malformed
  deriving DecidableEq, Repr

/-- A token of a YAML text. -/
inductive Token where
  | documentStart
  | documentEnd
  | blockListStart
  | blockMappingStart
  | blockEnd
  | flowListStart
  | flowListEnd
  | flowMappingStart
  | flowMappingEnd
  | blockEntry
  | flowEntry
  | key
  | value
  | plain (text : List Char)
  | quoted (text : List Char)
  deriving DecidableEq, Repr

/-! ## Characters -/

/-- A character that may occur in a YAML text. -/
def isAllowed (c : Char) : Bool :=
  let code := c.toNat
  code = 0x09 || code = 0x0a || code = 0x0d || (0x20 ≤ code && code ≤ 0x7e) || code = 0x85
    || (0xa0 ≤ code && code ≤ 0xd7ff) || (0xe000 ≤ code && code ≤ 0xfffd) || 0x10000 ≤ code

/-- A line break. -/
def isBreak (c : Char) : Bool :=
  c = '\n' || c = '\r' || c = '\x85' || c = '\u2028' || c = '\u2029'

/-! ## Places -/

/-- A place in a text: what remains of it, and where the place is. -/
structure Cursor where
  rest : List Char
  /-- The number of characters that remain. -/
  left : Nat
  line : Nat := 0
  column : Nat := 0
  index : Nat := 0
  deriving DecidableEq, Repr

namespace Cursor

/-- The first place of a text. -/
def start (text : List Char) : Cursor := { rest := text, left := text.length }

/-- More steps than there are characters ahead. -/
def fuel (cursor : Cursor) : Nat := cursor.left + 1

/-- The place behind the next character. -/
def next (cursor : Cursor) : Cursor :=
  match cursor.rest with
  | [] => cursor
  | c :: rest =>
    if isBreak c && !(c = '\r' && rest.head? == some '\n') then
      ⟨rest, cursor.left - 1, cursor.line + 1, 0, cursor.index + 1⟩
    else if c = '\ufeff' then
      ⟨rest, cursor.left - 1, cursor.line, cursor.column, cursor.index + 1⟩
    else ⟨rest, cursor.left - 1, cursor.line, cursor.column + 1, cursor.index + 1⟩

/-- The place behind a number of characters. -/
def skip (cursor : Cursor) : Nat → Cursor
  | 0 => cursor
  | count + 1 => cursor.next.skip count

/-- The place behind all leading characters of a class. -/
def skipWhile (cursor : Cursor) (p : Char → Bool) : Cursor :=
  cursor.skip (cursor.rest.takeWhile p).length

/-- The line break at a place, unified, and the place behind it. -/
def takeBreak? (cursor : Cursor) : Option (Char × Cursor) :=
  match cursor.rest with
  | '\r' :: '\n' :: _ => some ('\n', cursor.skip 2)
  | c :: _ =>
    if c = '\n' ∨ c = '\r' ∨ c = '\x85' then some ('\n', cursor.next)
    else if isBreak c then some (c, cursor.next)
    else none
  | [] => none

/-- A mark of three equal characters that stands as a word of its own. -/
def isAtMark (cursor : Cursor) (c : Char) : Bool :=
  match Text.afterPrefix [c, c, c] cursor.rest with
  | some rest => endsWord rest
  | none => false

/-- The start or the end of a document. -/
def isAtDocumentMark (cursor : Cursor) : Bool := cursor.isAtMark '-' || cursor.isAtMark '.'

/-- The next character, if there is one. -/
def peek? (cursor : Cursor) : Option Char := cursor.rest.head?

end Cursor

/-! ## Quoted scalars -/

/-- The further line breaks behind one; blanks between them are dropped. -/
def takeBreaks : Nat → Cursor → Except Malformed (List Char × Cursor)
  | 0, _ => .error .malformed
  | fuel + 1, cursor =>
    if cursor.isAtDocumentMark then .error .malformed
    else
      let ahead := cursor.skipWhile fun c => c = ' ' || c = '\t'
      match ahead.takeBreak? with
      | none => .ok ([], ahead)
      | some (found, after) => do
        let (others, final) ← takeBreaks fuel after
        pure (found :: others, final)

/-- What a folded line break and the breaks behind it stand for. -/
def foldBreaks (found : Char) (others : List Char) : List Char :=
  if found ≠ '\n' then found :: others else if others.isEmpty then [' '] else others

/-- The escapes that are read beside those that are written. -/
def furtherEscapes : List (Char × Char) := [('\t', '\t'), (' ', ' '), ('/', '/')]

/-- The character that a letter behind a backslash stands for. -/
def unescape? (letter : Char) : Option Char :=
  match escapeLetters.find? fun entry => entry.2 == letter with
  | some entry => some entry.1
  | none => furtherEscapes.lookup letter

/-- The number of hexadecimal digits behind a letter. -/
def escapeLength? (letter : Char) : Option Nat :=
  [('x', 2), ('u', 4), ('U', 8)].lookup letter

/-- The character of a code point in hexadecimal digits. -/
def codePoint? (digits : List Char) : Option Char := do
  let values ← digits.mapM Json.hexDigit?
  let code := values.foldl (fun total digit => total * 16 + digit) 0
  if h : code.isValidChar then some (Char.ofNatAux code h) else none

/-- What is between the quotes of a scalar, from a place behind the first one. -/
def takeQuoted (double : Bool) : Nat → Cursor → Except Malformed (List Char × Cursor)
  | 0, _ => .error .malformed
  | fuel + 1, cursor =>
    let continueWith (text : List Char) (after : Cursor) :
        Except Malformed (List Char × Cursor) := do
      let (others, final) ← takeQuoted double fuel after
      pure (text ++ others, final)
    match cursor.rest with
    | [] => .error .malformed
    | c :: rest =>
      if !double && c = '\'' && rest.head? == some '\'' then continueWith ['\''] (cursor.skip 2)
      else if c = (if double then '"' else '\'') then .ok ([], cursor.next)
      else if double && c = '\\' then
        match rest with
        | [] => .error .malformed
        | letter :: more =>
          match unescape? letter, escapeLength? letter with
          | some found, _ => continueWith [found] (cursor.skip 2)
          | none, some count =>
            let digits := more.take count
            if digits.length < count then .error .malformed
            else
              match codePoint? digits with
              | some found => continueWith [found] (cursor.skip (2 + count))
              | none => .error .malformed
          | none, none =>
            match cursor.next.takeBreak? with
            | none => .error .malformed
            | some (_, after) => do
              let (breaks, final) ← takeBreaks after.fuel after
              continueWith breaks final
      else if c = ' ' || c = '\t' || isBreak c then
        let spaces := cursor.rest.takeWhile fun c => c = ' ' || c = '\t'
        let ahead := cursor.skip spaces.length
        match ahead.takeBreak? with
        | none => continueWith spaces ahead
        | some (found, after) => do
          let (others, final) ← takeBreaks after.fuel after
          continueWith (foldBreaks found others) final
      else continueWith [c] cursor.next

/-! ## Plain scalars -/

/-- The scalar ends before a text, within a flow collection or not. -/
def endsPlain (flow : Bool) : List Char → Bool
  | [] => true
  | c :: rest =>
    isSeparator c
      || (c = ':' && (endsWord rest
        || (flow && match rest with
          | d :: _ => d = ',' || d = '[' || d = ']' || d = '\x7b' || d = '\x7d'
          | [] => false)))
      || (flow && (c = ',' || c = '?' || c = '[' || c = ']' || c = '\x7b' || c = '\x7d'))

/-- The characters up to the end of a run of a plain scalar. -/
def plainRun (flow : Bool) : List Char → List Char
  | [] => []
  | c :: rest => if endsPlain flow (c :: rest) then [] else c :: plainRun flow rest

/-- The space and the breaks behind a run of a plain scalar. -/
structure PlainGap where
  text : List Char
  cursor : Cursor
  /-- A line break was passed, so that a key may begin. -/
  broken : Bool

/-- Further line breaks and spaces; none before the mark of a document. -/
def takePlainBreaks : Nat → Cursor → Option (List Char) × Cursor
  | 0, cursor => (none, cursor)
  | fuel + 1, cursor =>
    let ahead := cursor.skipWhile (· = ' ')
    match ahead.takeBreak? with
    | none => (some [], ahead)
    | some (found, after) =>
      if after.isAtDocumentMark then (none, after)
      else
        let (others, final) := takePlainBreaks fuel after
        (others.map fun breaks => found :: breaks, final)

/-- The gap behind a run; its text is empty where the scalar ends. -/
def takePlainGap (cursor : Cursor) : PlainGap :=
  let spaces := cursor.rest.takeWhile (· = ' ')
  let ahead := cursor.skip spaces.length
  match ahead.takeBreak? with
  | none => ⟨spaces, ahead, false⟩
  | some (found, after) =>
    if after.isAtDocumentMark then ⟨[], after, true⟩
    else
      match takePlainBreaks after.fuel after with
      | (none, final) => ⟨[], final, true⟩
      | (some others, final) => ⟨foldBreaks found others, final, true⟩

/--
A plain scalar from a place on: its text, the place behind the gap that follows it, and
whether that gap had a line break.
-/
def takePlain (flow : Bool) (indent : Nat) : Nat → Cursor → List Char × Cursor × Bool
  | 0, cursor => ([], cursor, false)
  | fuel + 1, cursor =>
    let run := if cursor.peek? == some '#' then [] else plainRun flow cursor.rest
    if run.isEmpty then ([], cursor, false)
    else
      let gap := takePlainGap (cursor.skip run.length)
      if gap.text.isEmpty || gap.cursor.peek? == some '#'
          || (!flow && gap.cursor.column < indent) then
        (run, gap.cursor, gap.broken)
      else
        let (others, final, broken) := takePlain flow indent fuel gap.cursor
        if others.isEmpty then (run, final, gap.broken)
        else (run ++ gap.text ++ others, final, broken)

/-! ## Scanning -/

/-- A token that becomes a key if a colon follows. -/
structure PossibleKey where
  /-- The number of tokens before it. -/
  position : Nat
  /-- It stands where only a key may stand. -/
  required : Bool
  line : Nat
  column : Nat
  index : Nat
  deriving DecidableEq, Repr

/-- The state between two tokens. -/
structure Scanner where
  cursor : Cursor
  /-- The tokens so far, the last one first. -/
  reversed : List Token := []
  /-- The number of tokens so far. -/
  count : Nat := 0
  /-- Columns of the open block collections, the innermost first. -/
  indents : List Nat := []
  /-- For every open flow collection, the innermost first, the key it may begin with. -/
  flows : List (Option PossibleKey) := []
  /-- The key that may begin outside flow collections. -/
  blockKey : Option PossibleKey := none
  /-- A key may begin here. -/
  keyAllowed : Bool := true
  deriving Repr

namespace Scanner

/-- The scanner is inside a flow collection. -/
def inFlow (scanner : Scanner) : Bool := !scanner.flows.isEmpty

/-- Adds a token. -/
def emit (scanner : Scanner) (token : Token) : Scanner :=
  { scanner with reversed := token :: scanner.reversed, count := scanner.count + 1 }

/-- Adds a token of some characters. -/
def emitChars (scanner : Scanner) (count : Nat) (token : Token) : Scanner :=
  { scanner.emit token with cursor := scanner.cursor.skip count }

/-- The key that is possible at the current level. -/
def possibleKey (scanner : Scanner) : Option PossibleKey :=
  match scanner.flows with
  | current :: _ => current
  | [] => scanner.blockKey

/-- The scanner with another possible key at the current level. -/
def withKey (scanner : Scanner) (key : Option PossibleKey) : Scanner :=
  match scanner.flows with
  | _ :: outer => { scanner with flows := key :: outer }
  | [] => { scanner with blockKey := key }

/-- A key is no longer possible behind its line or far from its start. -/
def isStale (scanner : Scanner) (key : PossibleKey) : Bool :=
  key.line != scanner.cursor.line || key.index + 1024 < scanner.cursor.index

/-- Forgets keys that are no longer possible, none of which may be required. -/
def dropStale (scanner : Scanner) : Except Malformed Scanner :=
  let fresh (key : Option PossibleKey) : Option PossibleKey :=
    key.filter fun found => !scanner.isStale found
  let lost := (scanner.blockKey :: scanner.flows).any fun key =>
    key.any fun found => scanner.isStale found && found.required
  if lost then .error .malformed
  else .ok { scanner with flows := scanner.flows.map fresh, blockKey := fresh scanner.blockKey }

/-- Forgets the possible key of the current level, which may not be required. -/
def dropKey (scanner : Scanner) : Except Malformed Scanner :=
  if scanner.possibleKey.any PossibleKey.required then .error .malformed
  else .ok (scanner.withKey none)

/-- Notes that the next token may be a key. -/
def saveKey (scanner : Scanner) : Except Malformed Scanner :=
  if scanner.keyAllowed then do
    let dropped ← scanner.dropKey
    let cursor := scanner.cursor
    let required := !scanner.inFlow && scanner.indents.head? == some cursor.column
    pure (dropped.withKey (some
      ⟨scanner.count, required, cursor.line, cursor.column, cursor.index⟩))
  else .ok scanner

/-- Closes the block collections that are indented beyond a column. -/
def unwind (limit : Option Nat) (scanner : Scanner) : Scanner :=
  if scanner.inFlow then scanner
  else
    let isOpen (column : Nat) : Bool := limit.all fun found => found < column
    let closed := scanner.indents.takeWhile isOpen
    { scanner with
      indents := scanner.indents.dropWhile isOpen
      reversed := List.replicate closed.length .blockEnd ++ scanner.reversed
      count := closed.length + scanner.count }

/-- A column is beyond the innermost block collection. -/
def isDeeper (scanner : Scanner) (column : Nat) : Bool :=
  scanner.indents.head?.all fun indent => indent < column

/-- Opens a block collection at a column, unless one is open there. -/
def openBlock (scanner : Scanner) (column : Nat) (token : Token) : Scanner :=
  if scanner.isDeeper column then
    { scanner.emit token with indents := column :: scanner.indents }
  else scanner

/-- Adds a token before the tokens from a position on. -/
def insert (scanner : Scanner) (position : Nat) (token : Token) : Scanner :=
  let later := scanner.count - position
  { scanner with
    reversed := scanner.reversed.take later ++ token :: scanner.reversed.drop later
    count := scanner.count + 1 }

/-- Skips space, comments and line breaks; a key may begin behind a break of a block. -/
def skipToToken : Nat → Scanner → Scanner
  | 0, scanner => scanner
  | fuel + 1, scanner =>
    let spaced := scanner.cursor.skipWhile (· = ' ')
    let ahead :=
      if spaced.peek? == some '#' then spaced.skipWhile fun c => !isBreak c else spaced
    match ahead.takeBreak? with
    | none => { scanner with cursor := ahead }
    | some (_, after) =>
      skipToToken fuel
        { scanner with cursor := after, keyAllowed := scanner.keyAllowed || !scanner.inFlow }

/-- A mark between documents. -/
def documentMark (scanner : Scanner) (token : Token) : Except Malformed Scanner := do
  let dropped ← (scanner.unwind none).dropKey
  pure { dropped.emitChars 3 token with keyAllowed := false }

/-- The start of a flow collection. -/
def flowStart (scanner : Scanner) (token : Token) : Except Malformed Scanner := do
  let saved ← scanner.saveKey
  pure { saved.emitChars 1 token with flows := none :: saved.flows, keyAllowed := true }

/-- The end of a flow collection. -/
def flowEnd (scanner : Scanner) (token : Token) : Except Malformed Scanner := do
  let dropped ← scanner.dropKey
  pure { dropped.emitChars 1 token with flows := dropped.flows.tail, keyAllowed := false }

/-- The comma between two entries of a flow collection. -/
def flowEntry (scanner : Scanner) : Except Malformed Scanner := do
  let dropped ← scanner.dropKey
  pure { dropped.emitChars 1 .flowEntry with keyAllowed := true }

/-- The dash of an entry of a block list. -/
def blockEntry (scanner : Scanner) : Except Malformed Scanner := do
  if !scanner.inFlow && !scanner.keyAllowed then throw .malformed
  let opened :=
    if scanner.inFlow then scanner else scanner.openBlock scanner.cursor.column .blockListStart
  let dropped ← opened.dropKey
  pure { dropped.emitChars 1 .blockEntry with keyAllowed := true }

/-- The question mark of a key. -/
def keyMark (scanner : Scanner) : Except Malformed Scanner := do
  if !scanner.inFlow && !scanner.keyAllowed then throw .malformed
  let opened :=
    if scanner.inFlow then scanner else scanner.openBlock scanner.cursor.column .blockMappingStart
  let dropped ← opened.dropKey
  pure { dropped.emitChars 1 .key with keyAllowed := !scanner.inFlow }

/-- The colon of a value; what may be a key before it becomes one. -/
def valueMark (scanner : Scanner) : Except Malformed Scanner := do
  match scanner.possibleKey with
  | some key =>
    let keyed := (scanner.withKey none).insert key.position .key
    let opened :=
      if !scanner.inFlow && scanner.isDeeper key.column then
        { keyed.insert key.position .blockMappingStart with
          indents := key.column :: keyed.indents }
      else keyed
    pure { opened.emitChars 1 .value with keyAllowed := false }
  | none =>
    if !scanner.inFlow && !scanner.keyAllowed then throw .malformed
    let opened :=
      if scanner.inFlow then scanner
      else scanner.openBlock scanner.cursor.column .blockMappingStart
    let dropped ← opened.dropKey
    pure { dropped.emitChars 1 .value with keyAllowed := !scanner.inFlow }

/-- A quoted scalar. -/
def quotedScalar (scanner : Scanner) (double : Bool) : Except Malformed Scanner := do
  let saved ← scanner.saveKey
  let start := saved.cursor.next
  let (text, after) ← takeQuoted double start.fuel start
  pure { saved.emit (.quoted text) with cursor := after, keyAllowed := false }

/-- A plain scalar. -/
def plainScalar (scanner : Scanner) : Except Malformed Scanner := do
  let saved ← scanner.saveKey
  let indent := (saved.indents.head?.map (· + 1)).getD 0
  let (text, after, broken) :=
    takePlain saved.inFlow indent saved.cursor.fuel saved.cursor
  pure { saved.emit (.plain text) with cursor := after, keyAllowed := broken }

/-- A plain scalar may begin with a text. -/
def startsPlain (flow : Bool) : List Char → Bool
  | [] => false
  | c :: rest =>
    (!isSeparator c && !"-?:,[]\x7b\x7d#&*!|>'\"%@\x60".toList.contains c)
      || (!endsWord rest && (c = '-' || (!flow && (c = '?' || c = ':'))))

/-- The scanner behind the next token, from the place where the token begins. -/
def scanToken (scanner : Scanner) (c : Char) (rest : List Char) : Except Malformed Scanner :=
  let cursor := scanner.cursor
  let alone := scanner.inFlow || endsWord rest
  if cursor.column = 0 && c = '%' then .error .malformed
  else if cursor.column = 0 && cursor.isAtMark '-' then scanner.documentMark .documentStart
  else if cursor.column = 0 && cursor.isAtMark '.' then scanner.documentMark .documentEnd
  else if c = '[' then scanner.flowStart .flowListStart
  else if c = '\x7b' then scanner.flowStart .flowMappingStart
  else if c = ']' then scanner.flowEnd .flowListEnd
  else if c = '\x7d' then scanner.flowEnd .flowMappingEnd
  else if c = ',' then scanner.flowEntry
  else if c = '-' && endsWord rest then scanner.blockEntry
  else if c = '?' && alone then scanner.keyMark
  else if c = ':' && alone then scanner.valueMark
  else if c = '\'' then scanner.quotedScalar false
  else if c = '"' then scanner.quotedScalar true
  else if startsPlain scanner.inFlow cursor.rest then scanner.plainScalar
  else .error .malformed

/-- The end of the text. -/
def finish (scanner : Scanner) : Except Malformed (List Token) := do
  let closed ← (scanner.unwind none).dropKey
  pure closed.reversed.reverse

/-- Scans all tokens. -/
def scan : Nat → Scanner → Except Malformed (List Token)
  | 0, _ => .error .malformed
  | fuel + 1, scanner => do
    let ahead := scanner.skipToToken scanner.cursor.fuel
    let fresh ← ahead.dropStale
    let placed := fresh.unwind (some fresh.cursor.column)
    match placed.cursor.rest with
    | [] => placed.finish
    | c :: rest => scan fuel (← placed.scanToken c rest)

end Scanner

/-- The tokens of a text.  A byte order mark at its start is skipped. -/
def tokens (text : List Char) : Except Malformed (List Token) :=
  if text.all isAllowed then
    let start := Cursor.start text
    let cursor := if text.head? == some '\ufeff' then start.next else start
    Scanner.scan (start.fuel + 1) { cursor := cursor }
  else .error .malformed

end Yaml
end Wardley
