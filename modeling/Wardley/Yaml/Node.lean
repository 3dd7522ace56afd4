import Wardley.Yaml.Token

/-!
# Nodes of YAML texts

The tokens of a text group into nodes: scalars, lists and mappings.  Nodes denote
documents; the keys of a mapping must denote scalars.  Under the key `<<` stand mappings
whose entries count as entries of the mapping that has the key; its own entries come last.

Main definitions:

- `Node.ofTokens`: the node of all tokens of a text.
- `Node.merge`: a node with all entries in the mappings that they count for.
- `Node.document`: what a node denotes.
- `Document.ofYaml`: the document of a YAML text.
-/

namespace Wardley
namespace Yaml

/-- A node of a YAML text. -/
inductive Node where
  | plain (text : List Char)
  | quoted (text : List Char)
  | list (items : List Node)
  | mapping (entries : List (Node × Node))
  deriving Repr, Inhabited

namespace Node

/-- The node that stands where nothing is written. -/
def empty : Node := plain []

/-! ## Grouping -/

/-- The next token is one of those given. -/
def isNext (expected : List Token) : List Token → Bool
  | token :: _ => expected.contains token
  | [] => false

mutual

/--
The node that tokens start with, and the tokens behind it.  Block collections are admitted
or not, and so are lists whose dashes stand at the column of their key.
-/
def take : Nat → (block dashes : Bool) → List Token → Except Malformed (Node × List Token)
  | 0, _, _, _ => .error .malformed
  | fuel + 1, block, dashes, found =>
    match found with
    | .plain text :: rest => .ok (plain text, rest)
    | .quoted text :: rest => .ok (quoted text, rest)
    | .flowListStart :: rest => do
      let (items, after) ← takeFlowItems fuel true rest
      pure (list items, after)
    | .flowMappingStart :: rest => do
      let (entries, after) ← takeFlowEntries fuel true rest
      pure (mapping entries, after)
    | .blockListStart :: rest =>
      if block then do
        let (items, after) ← takeItems fuel rest
        pure (list items, after)
      else .error .malformed
    | .blockMappingStart :: rest =>
      if block then do
        let (entries, after) ← takeEntries fuel rest
        pure (mapping entries, after)
      else .error .malformed
    | .blockEntry :: rest =>
      if dashes then do
        let (items, after) ← takeDashes fuel (.blockEntry :: rest)
        pure (list items, after)
      else .error .malformed
    | _ => .error .malformed

/-- A node, or an empty one before the tokens that cannot start it. -/
def takeUnless : Nat → List Token → (block dashes : Bool) → List Token →
    Except Malformed (Node × List Token)
  | 0, _, _, _, _ => .error .malformed
  | fuel + 1, enders, block, dashes, found =>
    if isNext enders found then .ok (empty, found) else take fuel block dashes found

/-- The items of a block list up to its end. -/
def takeItems : Nat → List Token → Except Malformed (List Node × List Token)
  | 0, _ => .error .malformed
  | fuel + 1, found =>
    match found with
    | .blockEntry :: rest => do
      let (item, after) ← takeUnless fuel [.blockEntry, .blockEnd] true false rest
      let (items, final) ← takeItems fuel after
      pure (item :: items, final)
    | .blockEnd :: rest => .ok ([], rest)
    | _ => .error .malformed

/-- The items of a list at the column of its key, up to a token that is no dash. -/
def takeDashes : Nat → List Token → Except Malformed (List Node × List Token)
  | 0, _ => .error .malformed
  | fuel + 1, found =>
    match found with
    | .blockEntry :: rest => do
      let (item, after) ←
        takeUnless fuel [.blockEntry, .key, .value, .blockEnd] true false rest
      let (items, final) ← takeDashes fuel after
      pure (item :: items, final)
    | rest => .ok ([], rest)

/-- The entries of a block mapping up to its end. -/
def takeEntries : Nat → List Token → Except Malformed (List (Node × Node) × List Token)
  | 0, _ => .error .malformed
  | fuel + 1, found =>
    match found with
    | .key :: rest => do
      let (key, afterKey) ← takeUnless fuel [.key, .value, .blockEnd] true true rest
      let (value, after) ←
        match afterKey with
        | .value :: more => takeUnless fuel [.key, .value, .blockEnd] true true more
        | _ => pure (empty, afterKey)
      let (entries, final) ← takeEntries fuel after
      pure ((key, value) :: entries, final)
    | .blockEnd :: rest => .ok ([], rest)
    | _ => .error .malformed

/-- The items of a flow list up to its end; before all but the first stands a comma. -/
def takeFlowItems : Nat → (first : Bool) → List Token → Except Malformed (List Node × List Token)
  | 0, _, _ => .error .malformed
  | fuel + 1, first, found =>
    let placed :=
      match first, found with
      | false, .flowEntry :: rest => some rest
      | false, .flowListEnd :: _ => some found
      | false, _ => none
      | true, _ => some found
    match placed with
    | none => .error .malformed
    | some (.flowListEnd :: rest) => .ok ([], rest)
    | some (.key :: rest) => do
      let (key, afterKey) ← takeUnless fuel [.value, .flowEntry, .flowListEnd] false false rest
      let (value, after) ←
        match afterKey with
        | .value :: more => takeUnless fuel [.flowEntry, .flowListEnd] false false more
        | _ => pure (empty, afterKey)
      let (items, final) ← takeFlowItems fuel false after
      pure (mapping [(key, value)] :: items, final)
    | some ahead => do
      let (item, after) ← take fuel false false ahead
      let (items, final) ← takeFlowItems fuel false after
      pure (item :: items, final)

/-- The entries of a flow mapping up to its end; before all but the first stands a comma. -/
def takeFlowEntries : Nat → (first : Bool) → List Token →
    Except Malformed (List (Node × Node) × List Token)
  | 0, _, _ => .error .malformed
  | fuel + 1, first, found =>
    let placed :=
      match first, found with
      | false, .flowEntry :: rest => some rest
      | false, .flowMappingEnd :: _ => some found
      | false, _ => none
      | true, _ => some found
    match placed with
    | none => .error .malformed
    | some (.flowMappingEnd :: rest) => .ok ([], rest)
    | some (.key :: rest) => do
      let (key, afterKey) ←
        takeUnless fuel [.value, .flowEntry, .flowMappingEnd] false false rest
      let (value, after) ←
        match afterKey with
        | .value :: more => takeUnless fuel [.flowEntry, .flowMappingEnd] false false more
        | _ => pure (empty, afterKey)
      let (entries, final) ← takeFlowEntries fuel false after
      pure ((key, value) :: entries, final)
    | some ahead => do
      let (key, after) ← take fuel false false ahead
      let (entries, final) ← takeFlowEntries fuel false after
      pure ((key, empty) :: entries, final)

end

/-- The tokens behind all marks that end a document. -/
def skipEnds : List Token → List Token
  | .documentEnd :: rest => skipEnds rest
  | rest => rest

/-- The node of all tokens of a text, which hold one document or none. -/
def ofTokens (found : List Token) : Except Malformed Node := do
  let fuel := 4 * found.length + 8
  let (node, after) ←
    match found with
    | [] => pure (empty, [])
    | .documentStart :: rest =>
      if rest.isEmpty || isNext [.documentStart, .documentEnd] rest then pure (empty, rest)
      else take fuel true false rest
    | _ => take fuel true false found
  if (skipEnds after).isEmpty then pure node else throw .malformed

/-! ## Merging -/

/-- The node is the key under which mappings to be merged stand. -/
def isMergeKey : Node → Bool
  | plain text => text = ['<', '<']
  | _ => false

/-- Entries that denote nothing, since nothing can be merged. -/
def unmergeable : List (Node × Node) := [(plain ['<', '<'], empty)]

/-- The entries of a mapping. -/
def entries? : Node → Option (List (Node × Node))
  | mapping entries => some entries
  | _ => none

/-- The entries that a value adds where it is merged: of several mappings the first wins. -/
def mergedEntries : Node → List (Node × Node)
  | mapping entries => entries
  | list items =>
    match items.mapM entries? with
    | some found => found.reverse.flatten
    | none => unmergeable
  | _ => unmergeable

/-- Entries with those to be merged in front, unless some of them cannot be merged. -/
def flatten (entries : List (Node × Node)) : List (Node × Node) :=
  let merged := (entries.filter fun entry => entry.1.isMergeKey).flatMap fun entry =>
    entry.2.mergedEntries
  if merged.any fun entry => entry.1.isMergeKey then unmergeable
  else merged ++ entries.filter fun entry => !entry.1.isMergeKey

mutual

/-- A node with all entries in the mappings that they count for. -/
def merge : Node → Node
  | plain text => plain text
  | quoted text => quoted text
  | list items => list (mergeItems items)
  | mapping entries => mapping (flatten (mergeValues entries))

/-- Items after merging. -/
def mergeItems : List Node → List Node
  | [] => []
  | item :: rest => item.merge :: mergeItems rest

/-- Entries with their values after merging. -/
def mergeValues : List (Node × Node) → List (Node × Node)
  | [] => []
  | (key, value) :: rest => (key, value.merge) :: mergeValues rest

end

/-! ## Meaning -/

/-- An error of a node, and how many collections contain the node. -/
structure Fault where
  depth : Nat
  error : TextError
  deriving DecidableEq, Repr

/-- The results of two parts; of two errors the less deep one counts, else the first. -/
def both {α β : Type} (first : Except Fault α) (second : Except Fault β) :
    Except Fault (α × β) :=
  match first, second with
  | .ok a, .ok b => .ok (a, b)
  | .error fault, .ok _ => .error fault
  | .ok _, .error fault => .error fault
  | .error a, .error b => .error (if b.depth < a.depth then b else a)

/-- The scalar that a plain scalar denotes as a value. -/
def plainValue (text : List Char) : Except TextError Scalar :=
  match meaning text with
  | .scalar value => .ok value
  | .invalid error => .error (.literal error)
  | .mark => .error .malformed

/-- The scalar that a key denotes. -/
def keyScalar : Node → Except TextError Scalar
  | plain text => if text = ['='] then .ok (.text "=") else plainValue text
  | quoted text => .ok (.text (String.ofList text))
  | _ => .error .malformed

/-- Entries with their keys and values one after the other; of equal keys the last counts. -/
def gather (entries : List (Scalar × Document)) : List (Scalar × Document) :=
  entries.foldl (fun seen entry => Document.put entry.1 entry.2 seen) []

mutual

/-- The document that a node at a depth denotes. -/
def document (depth : Nat) : Node → Except Fault Document
  | plain text => ((plainValue text).mapError (Fault.mk depth)).map Document.scalar
  | quoted text => .ok (.text (String.ofList text))
  | list items => (itemDocuments (depth + 1) items).map Document.list
  | mapping entries =>
    (entryDocuments (depth + 1) entries).map fun found => .mapping (gather found)

/-- The documents that the items of a list denote. -/
def itemDocuments (depth : Nat) : List Node → Except Fault (List Document)
  | [] => .ok []
  | item :: rest =>
    (both (item.document depth) (itemDocuments depth rest)).map fun found => found.1 :: found.2

/-- The entries that nodes denote. -/
def entryDocuments (depth : Nat) :
    List (Node × Node) → Except Fault (List (Scalar × Document))
  | [] => .ok []
  | (key, value) :: rest =>
    let entry := both (key.keyScalar.mapError (Fault.mk depth)) (value.document depth)
    (both entry (entryDocuments depth rest)).map fun found => found.1 :: found.2

end

end Node

end Yaml

/-- The document of a YAML text. -/
def Document.ofYaml (text : String) : Except TextError Document :=
  match Yaml.tokens text.toList >>= Yaml.Node.ofTokens with
  | .error _ => .error .malformed
  | .ok node => (node.merge.document 0).mapError Yaml.Node.Fault.error

end Wardley
