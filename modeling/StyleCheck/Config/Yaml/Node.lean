/-
# YAML documents

The tokens of a settings file make up one document: a scalar, or a sequence or
mapping in block or flow form. A missing item, key or value is nothing. In a
mapping the later of two equal keys wins, and entries that are taken over from
another mapping come before its own.

A tag that names what a node is anyway changes nothing, and a scalar can be
tagged as a text or as nothing. A node with any other tag has no value; what it
holds counts only where its entries are taken over.

Values are looked at level by level: those of a collection before those of the
collections in it. So it is the outermost fault that a file is refused for, and
the first of these.

Key definitions: `Node`, `Node.ofEntries`, `Node.withTag`, `Node.levels`,
`Node.fault?`, `Node.value`, `parse`.
-/
import StyleCheck.Config.Yaml.Scalar
import StyleCheck.Config.Yaml.Token

namespace StyleCheck.Yaml

/-- A node of a document, before scalars are given their values. -/
inductive Node where
  | plain (text : List Char)
  | quoted (text : Text.PointText)
  | sequence (items : List Node)
  | mapping (entries : List (Node × Node))
  /-- A mapping that takes over entries from something that has none. -/
  | unmergeable
  /-- A node with a tag that is of no use for it. -/
  | mistagged (content : Node)
  deriving Repr, Inhabited

namespace Node

/-- The node for something that is missing. -/
def empty : Node := plain []

/-- The node is a sequence or a mapping. -/
def isCollection : Node → Bool
  | sequence _ => true
  | mapping _ => true
  | unmergeable => true
  | _ => false

/-- The key of entries to take over. -/
def isMergeMark : Node → Bool
  | plain text => text == mergeMark
  | _ => false

/-- The entries of a mapping. -/
def entries? : Node → Option (List (Node × Node))
  | mapping entries => some entries
  | mistagged content => content.entries?
  | _ => none

/-- The entries to take over from a node: those of a mapping, or of the
mappings in a sequence, the last one first. -/
def entriesToMerge? : Node → Option (List (Node × Node))
  | mapping entries => some entries
  | sequence items => (items.mapM entries?).map fun all => all.reverse.flatten
  | mistagged content => content.entriesToMerge?
  | _ => none

/-- The mapping that some entries make up. -/
def ofEntries (entries : List (Node × Node)) : Node :=
  let (merges, own) := entries.partition fun entry => entry.1.isMergeMark
  match merges.mapM fun entry => entry.2.entriesToMerge? with
  | some merged => mapping (merged.flatten ++ own)
  | none => unmergeable

/-- The characters of a scalar. -/
def chars? : Node → Option (List Char)
  | plain text => some text
  | quoted text => Text.chars? text
  | _ => none

/-- The scalar without its quotes. -/
def unquoted (node : Node) : Node :=
  match node.chars? with
  | some text => plain text
  | none => node

/-- The node is of a standard kind; a scalar in quotes may be so without them. -/
def hasKind (node : Node) (kind : String) : Bool :=
  match node with
  | sequence _ => kind == "seq"
  | mapping _ => kind == "map"
  | unmergeable => kind == "map"
  | _ => (node.chars?.map plainKind) == some kind

/-- The node with a standard tag. -/
def withKind (node : Node) (kind : String) : Node :=
  match kind, node with
  | "str", plain text => quoted (Text.points text)
  | "str", quoted text => quoted text
  | "null", plain _ => empty
  | "null", quoted _ => empty
  | _, _ => if node.hasKind kind then node.unquoted else mistagged node

/-- The node with a tag. -/
def withTag (node : Node) : Tag → Node
  | .unspecific => node.unquoted
  | .standard name => node.withKind (String.ofList name)
  | _ => mistagged node

end Node

/-- Tokens still to be read. -/
abbrev Tokens := List Token

/-- The first token is one of these. -/
def nextIs (candidates : List Token) : Tokens → Bool
  | [] => false
  | t :: _ => candidates.contains t

/-- What is wrong where the first token does not belong. -/
def unexpected : Tokens → Fault
  | .broken cause :: _ => .badValue cause
  | _ => .malformed

/-- The content of a node begins with the first token. -/
def startsContent (block indentless : Bool) : Tokens → Bool
  | [] => false
  | t :: _ =>
    match t with
    | .plain _ => true
    | .quoted _ => true
    | .flowSequenceStart => true
    | .flowMappingStart => true
    | .blockSequenceStart => block
    | .blockMappingStart => block
    | .blockEntry => indentless
    | _ => false

mutual

/-- A node. A block collection may begin here only if `block` is set, and a
block sequence at the indentation of its key only if `indentless` is. Behind a
tag there may be nothing. -/
def readNode (block indentless : Bool) : Nat → Tokens → Except Fault (Node × Tokens)
  | 0, _ => .error .malformed
  | fuel + 1, tokens =>
    match tokens with
    | .plain text :: rest => .ok (.plain text, rest)
    | .quoted text :: rest => .ok (.quoted text, rest)
    | .flowSequenceStart :: rest => readFlowSequence true [] fuel rest
    | .flowMappingStart :: rest => readFlowMapping true [] fuel rest
    | .blockSequenceStart :: rest =>
      if block then readBlockSequence [] fuel rest else .error .malformed
    | .blockMappingStart :: rest =>
      if block then readBlockMapping [] fuel rest else .error .malformed
    | .blockEntry :: _ =>
      if indentless then readIndentlessSequence [] fuel tokens else .error .malformed
    | .tag tag :: rest =>
      if tag = .undeclared then .error (unexpected rest)
      else do
        let (node, rest) ←
          if startsContent block indentless rest then readNode block indentless fuel rest
          else .ok (.empty, rest)
        pure (node.withTag tag, rest)
    | _ => .error (unexpected tokens)

/-- A node, or nothing where one of some tokens comes next. -/
def readNodeUnless (ends : List Token) (block indentless : Bool) :
    Nat → Tokens → Except Fault (Node × Tokens)
  | 0, _ => .error .malformed
  | fuel + 1, tokens =>
    if nextIs ends tokens then .ok (.empty, tokens) else readNode block indentless fuel tokens

/-- The value of an entry, if a colon comes next, and nothing otherwise. -/
def readEntryValue (ends : List Token) (block indentless : Bool) :
    Nat → Tokens → Except Fault (Node × Tokens)
  | 0, _ => .error .malformed
  | fuel + 1, tokens =>
    match tokens with
    | .value :: rest => readNodeUnless ends block indentless fuel rest
    | _ => .ok (.empty, tokens)

/-- The items of a block sequence, those so far being kept backwards. -/
def readBlockSequence (items : List Node) : Nat → Tokens → Except Fault (Node × Tokens)
  | 0, _ => .error .malformed
  | fuel + 1, tokens =>
    match tokens with
    | .blockEntry :: rest => do
      let (item, rest) ← readNodeUnless [.blockEntry, .blockEnd] true false fuel rest
      readBlockSequence (item :: items) fuel rest
    | .blockEnd :: rest => .ok (.sequence items.reverse, rest)
    | _ => .error (unexpected tokens)

/-- The items of a block sequence at the indentation of its key. -/
def readIndentlessSequence (items : List Node) : Nat → Tokens → Except Fault (Node × Tokens)
  | 0, _ => .error .malformed
  | fuel + 1, tokens =>
    match tokens with
    | .blockEntry :: rest => do
      let (item, rest) ←
        readNodeUnless [.blockEntry, .key, .value, .blockEnd] true false fuel rest
      readIndentlessSequence (item :: items) fuel rest
    | _ => .ok (.sequence items.reverse, tokens)

/-- The entries of a block mapping. -/
def readBlockMapping (entries : List (Node × Node)) : Nat → Tokens → Except Fault (Node × Tokens)
  | 0, _ => .error .malformed
  | fuel + 1, tokens =>
    match tokens with
    | .key :: rest => do
      let (key, rest) ← readNodeUnless [.key, .value, .blockEnd] true true fuel rest
      let (value, rest) ← readEntryValue [.key, .value, .blockEnd] true true fuel rest
      readBlockMapping ((key, value) :: entries) fuel rest
    | .blockEnd :: rest => .ok (.ofEntries entries.reverse, rest)
    | _ => .error (unexpected tokens)

/-- The items of a flow sequence; a pair in it is a mapping of one entry. -/
def readFlowSequence (first : Bool) (items : List Node) :
    Nat → Tokens → Except Fault (Node × Tokens)
  | 0, _ => .error .malformed
  | fuel + 1, tokens =>
    match tokens with
    | .flowSequenceEnd :: rest => .ok (.sequence items.reverse, rest)
    | .flowEntry :: rest =>
      if first then .error .malformed else readFlowItem items fuel rest
    | _ => if first then readFlowItem items fuel tokens else .error (unexpected tokens)

/-- An item of a flow sequence, or its end, and the items behind it. -/
def readFlowItem (items : List Node) : Nat → Tokens → Except Fault (Node × Tokens)
  | 0, _ => .error .malformed
  | fuel + 1, tokens =>
    match tokens with
    | .flowSequenceEnd :: rest => .ok (.sequence items.reverse, rest)
    | .key :: rest => do
      let (key, rest) ←
        readNodeUnless [.value, .flowEntry, .flowSequenceEnd] false false fuel rest
      let (value, rest) ← readEntryValue [.flowEntry, .flowSequenceEnd] false false fuel rest
      readFlowSequence false (.ofEntries [(key, value)] :: items) fuel rest
    | _ => do
      let (item, rest) ← readNode false false fuel tokens
      readFlowSequence false (item :: items) fuel rest

/-- The entries of a flow mapping; a key alone has nothing as its value. -/
def readFlowMapping (first : Bool) (entries : List (Node × Node)) :
    Nat → Tokens → Except Fault (Node × Tokens)
  | 0, _ => .error .malformed
  | fuel + 1, tokens =>
    match tokens with
    | .flowMappingEnd :: rest => .ok (.ofEntries entries.reverse, rest)
    | .flowEntry :: rest =>
      if first then .error .malformed else readFlowPair entries fuel rest
    | _ => if first then readFlowPair entries fuel tokens else .error (unexpected tokens)

/-- An entry of a flow mapping, or its end, and the entries behind it. -/
def readFlowPair (entries : List (Node × Node)) : Nat → Tokens → Except Fault (Node × Tokens)
  | 0, _ => .error .malformed
  | fuel + 1, tokens =>
    match tokens with
    | .flowMappingEnd :: rest => .ok (.ofEntries entries.reverse, rest)
    | .key :: rest => do
      let (key, rest) ←
        readNodeUnless [.value, .flowEntry, .flowMappingEnd] false false fuel rest
      let (value, rest) ← readEntryValue [.flowEntry, .flowMappingEnd] false false fuel rest
      readFlowMapping false ((key, value) :: entries) fuel rest
    | _ => do
      let (key, rest) ← readNode false false fuel tokens
      readFlowMapping false ((key, .empty) :: entries) fuel rest

end

/-- Nothing but ends of documents may be left behind a document. -/
def finish (node : Node) (tokens : Tokens) : Except Fault Node :=
  match tokens.dropWhile (· == .documentEnd) with
  | [] => .ok node
  | rest => .error (unexpected rest)

/-- The one document of a settings file; a file without one holds nothing. -/
def document (tokens : Tokens) : Except Fault Node :=
  let content (tokens : Tokens) : Except Fault Node := do
    let (node, rest) ← readNode true false (4 * tokens.length + 4) tokens
    finish node rest
  match tokens with
  | [] => .ok .empty
  | [.documentStart] => .ok .empty
  | .documentStart :: .documentEnd :: rest => finish .empty rest
  | .documentStart :: rest => content rest
  | _ => content tokens

namespace Node

/-- The value of a scalar; a collection has one of its own. -/
def scalarValue : Node → Except Fault Value
  | plain text => plainValue text
  | quoted text => .ok (.text text)
  | mistagged _ => .error .malformed
  | _ => .ok .null

/-- The value of a key; a list or a mapping is no key. -/
def keyValue (key : Node) : Except Fault Value :=
  match key with
  | plain text => if text = equalsMark then .ok (.text (Text.points text)) else plainValue text
  | quoted text => .ok (.text text)
  | _ => .error .malformed

/-- The fault of a result. -/
def faultOf {α : Type} : Except Fault α → Option Fault
  | .error fault => some fault
  | .ok _ => none

/-- What is wrong with a node, the collections in it left aside. -/
def ownFault? : Node → Option Fault
  | plain text => faultOf (plainValue text)
  | quoted _ => none
  | sequence items => items.findSome? fun item => faultOf item.scalarValue
  | mapping entries => entries.findSome? fun (key, value) =>
    (faultOf key.keyValue).orElse fun _ => faultOf value.scalarValue
  | unmergeable => some .malformed
  | mistagged _ => some .malformed

end Node

/-- Two lists of levels as one, level by level. -/
def joinLevels : List (List Node) → List (List Node) → List (List Node)
  | [], ys => ys
  | xs, [] => xs
  | x :: xs, y :: ys => (x ++ y) :: joinLevels xs ys

mutual

/-- A node and the collections in it, level by level. -/
def Node.levels : Node → List (List Node)
  | .sequence items => [.sequence items] :: itemLevels items
  | .mapping entries => [.mapping entries] :: entryLevels entries
  | node => [[node]]

/-- The levels of the collections among some items. -/
def itemLevels : List Node → List (List Node)
  | [] => []
  | item :: rest => joinLevels (if item.isCollection then item.levels else []) (itemLevels rest)

/-- The levels of the collections among the values of some entries. -/
def entryLevels : List (Node × Node) → List (List Node)
  | [] => []
  | (_, value) :: rest =>
    joinLevels (if value.isCollection then value.levels else []) (entryLevels rest)

end

mutual

/-- The value of a node without faults. -/
def Node.value : Node → Value
  | .sequence items => .list (itemValues items)
  | .mapping entries => .map (entryValues [] entries)
  | node => node.scalarValue.toOption.getD .null

/-- The values of the items of a sequence. -/
def itemValues : List Node → List Value
  | [] => []
  | item :: rest => item.value :: itemValues rest

/-- The entries of a mapping laid over earlier ones. -/
def entryValues (earlier : Mapping) : List (Node × Node) → Mapping
  | [] => earlier
  | (key, value) :: rest =>
    entryValues (earlier.put (key.keyValue.toOption.getD .null) value.value) rest

end

/-- The fault that a document is refused for. -/
def Node.fault? (node : Node) : Option Fault :=
  node.levels.flatten.findSome? Node.ownFault?

/-- The value of a settings file. -/
def parse (text : List Char) : Except Fault Value := do
  let node ← document (← tokens text)
  match node.fault? with
  | some fault => throw fault
  | none => pure node.value

end StyleCheck.Yaml
