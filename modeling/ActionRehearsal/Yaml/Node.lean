import ActionRehearsal.Platform
import ActionRehearsal.Table
import ActionRehearsal.Yaml.Kind
import ActionRehearsal.Yaml.Token
/-!
# Nodes

A `Node` is a scalar, a sequence or a mapping with a kind. `Node.ofTokens` reads the one document
of a token list by recursive descent. Aliases are replaced by the nodes they stand for; a name is
given once, and an alias follows the node it names. A fault after the last token counts only once
all tokens before it have been taken.
-/

set_option autoImplicit false

namespace ActionRehearsal.Yaml

/-- A node of a document. A scalar knows its place, which an alias of it shares. -/
inductive Node where
  | scalar (kind : Kind) (text : String) (place : Nat)
  | sequence (kind : Kind) (items : List Node)
  | mapping (kind : Kind) (entries : List (Node × Node))

namespace Node

/-- The kind of a node. -/
def kind : Node → Kind
  | .scalar kind _ _ => kind
  | .sequence kind _ => kind
  | .mapping kind _ => kind

/-- The empty plain scalar, which stands where a node is left out. -/
def absent : Node := .scalar .null "" 0

/-- The state of reading nodes: the tokens left, the fault after them, how many more collections may
be open, the meaning of the tag handles, and the named nodes; a node that is still being read has a
name and no value. -/
structure Source where
  tokens : List Token
  fault : Option Fault
  nesting : Nat
  handles : Table String String
  named : Table String (Option Node)

/-- An action that reads nodes. -/
abbrev Reader (α : Type) : Type := StateT Source (Except Fault) α

/-- The next token, if there is one. -/
def peek : Reader (Option Token) := do
  let s ← get
  match s.tokens, s.fault with
  | token :: _, _ => return some token
  | [], none => return none
  | [], some fault => throw fault

/-- Whether the next token is the given one. -/
def atToken (token : Token) : Reader Bool := return (← peek) = some token

/-- Whether the next token is one of the given ones. -/
def atAny (tokens : List Token) : Reader Bool := do
  match ← peek with
  | some token => return tokens.contains token
  | none => return false

/-- Passes over the next token. -/
def skip : Reader Unit := modify fun s => { s with tokens := s.tokens.drop 1 }

/-- Passes over the given token; fails at any other. -/
def expect (token : Token) : Reader Unit := do
  if ← atToken token then skip else fail .unexpectedToken

/-! ## Properties -/

/-- The properties before a node: its name and its tag, in full or `!`. -/
structure Properties where
  name : Option String
  tag : Option String

/-- A full tag. -/
def fullTag (handle : Option String) (suffix : String) : Reader String := do
  match handle with
  | none => return suffix
  | some handle => match (← get).handles.get? handle with
    | some start => return start ++ suffix
    | none => fail .undefinedHandle

/-- Reads a name, if one is given here. -/
def nameProperty : Reader (Option String) := do
  match ← peek with
  | some (.anchor name) => skip; return some name
  | _ => return none

/-- Reads a tag, if one is given here. -/
def tagProperty : Reader (Option (Option String × String)) := do
  match ← peek with
  | some (.tag handle suffix) => skip; return some (handle, suffix)
  | _ => return none

/-- Reads the name and the tag before a node, in either order. -/
def properties : Reader Properties := do
  let (name, tag) ← match ← nameProperty with
    | some name => pure (some name, ← tagProperty)
    | none => match ← tagProperty with
      | some tag => pure (← nameProperty, some tag)
      | none => pure (none, none)
  match tag with
  | none => return ⟨name, none⟩
  | some (handle, suffix) => return ⟨name, some (← fullTag handle suffix)⟩

/-- The kind of a collection. -/
def Properties.collectionKind (p : Properties) (default : Kind) : Kind :=
  match p.tag with
  | none => default
  | some tag => if tag = "!" then default else Kind.ofTag tag

/-- The kind of a scalar: by its tag, or by its text if it is plain or tagged `!`. -/
def Properties.scalarKind (p : Properties) (plain : Bool) (text : String) : Kind :=
  match p.tag with
  | none => if plain then Kind.ofPlain text else .text
  | some tag => if tag = "!" then Kind.ofPlain text else Kind.ofTag tag

/-- Takes note of the name of a node that begins. -/
def begin? (name : Option String) : Reader Unit := do
  match name with
  | none => return
  | some name =>
    if (← get).named.has name then fail .repeatedAnchor
    modify fun s => { s with named := s.named.set name none }

/-- Takes note of a node that has been read. -/
def finish (name : Option String) (node : Node) : Reader Node := do
  match name with
  | none => return node
  | some name =>
    modify fun s => { s with named := s.named.set name (some node) }
    return node

/-- The node that an alias stands for. -/
def named (name : String) : Reader Node := do
  match (← get).named.get? name with
  | some (some node) => return node
  | _ => fail .undefinedAlias

/-- The place of the next token, counted from the end. -/
def place : Reader Nat := return (← get).tokens.length

/-- Reads a collection by what is inside it, if one more may be open. -/
def opened {α : Type} (inside : Reader α) : Reader α := do
  match (← get).nesting with
  | 0 => breakOff .tooDeep
  | nesting + 1 =>
    modify fun s => { s with nesting := nesting }
    let a ← inside
    modify fun s => { s with nesting := nesting + 1 }
    return a

/-! ## The grammar -/

mutual

/-- Reads a node. In a block collection (`block`) it may itself be one; after a key of a block
mapping (`indentless`) a sequence may stand at the column of the key. -/
def read (room : Nat) (block indentless : Bool) : Reader Node := do
  match room with
  | 0 => fail .unexpectedToken
  | room + 1 =>
    -- an alias has no properties of its own
    if let some (.alias name) ← peek then
      skip
      return ← named name
    let p ← properties
    -- the token after the name is looked at before the name is
    let next ← peek
    begin? p.name
    match next with
    | some .blockEntry =>
      if indentless then
        let items ← opened (indentlessItems room)
        finish p.name (.sequence (p.collectionKind .sequence) items)
      else left p
    | some (.scalar text plain) =>
      let here ← place
      skip
      finish p.name (.scalar (p.scalarKind plain text) text here)
    | some .flowSequenceStart =>
      skip
      let items ← opened (flowItems room true)
      finish p.name (.sequence (p.collectionKind .sequence) items)
    | some .flowMappingStart =>
      skip
      let entries ← opened (flowEntries room true)
      finish p.name (.mapping (p.collectionKind .mapping) entries)
    | some .blockSequenceStart =>
      if block then
        skip
        let items ← opened (blockItems room)
        finish p.name (.sequence (p.collectionKind .sequence) items)
      else left p
    | some .blockMappingStart =>
      if block then
        skip
        let entries ← opened (blockEntries room)
        finish p.name (.mapping (p.collectionKind .mapping) entries)
      else left p
    | _ => left p

/-- The node of properties after which nothing follows; without properties there is none. -/
def left (p : Properties) : Reader Node := do
  if p.name.isNone && p.tag.isNone then fail .unexpectedToken
  finish p.name (.scalar (p.scalarKind true "") "" 0)

/-- Reads a node, unless one of the given tokens follows, before which it is left out. -/
def readUnless (room : Nat) (block indentless : Bool) (ends : List Token) : Reader Node := do
  match room with
  | 0 => fail .unexpectedToken
  | room + 1 => if ← atAny ends then return absent else read room block indentless

/-- Reads the items of a block sequence and its end. -/
def blockItems (room : Nat) : Reader (List Node) := do
  match room with
  | 0 => fail .unexpectedToken
  | room + 1 =>
    if ← atToken .blockEntry then
      skip
      let item ← readUnless room true false [.blockEntry, .blockEnd]
      return item :: (← blockItems room)
    else
      expect .blockEnd
      return []

/-- Reads the items of a sequence at the column of the key before it. -/
def indentlessItems (room : Nat) : Reader (List Node) := do
  match room with
  | 0 => fail .unexpectedToken
  | room + 1 =>
    if ← atToken .blockEntry then
      skip
      let item ← readUnless room true false [.blockEntry, .key, .value, .blockEnd]
      return item :: (← indentlessItems room)
    else return []

/-- Reads the entries of a block mapping and its end. -/
def blockEntries (room : Nat) : Reader (List (Node × Node)) := do
  match room with
  | 0 => fail .unexpectedToken
  | room + 1 =>
    if ← atToken .key then
      skip
      let key ← readUnless room true true [.key, .value, .blockEnd]
      if ← atToken .value then
        skip
        let value ← readUnless room true true [.key, .value, .blockEnd]
        return (key, value) :: (← blockEntries room)
      else return (key, absent) :: (← blockEntries room)
    else
      expect .blockEnd
      return []

/-- Reads the value of a key inside a flow collection that `closing` ends. -/
def flowValue (room : Nat) (closing : Token) : Reader Node := do
  match room with
  | 0 => fail .unexpectedToken
  | room + 1 =>
    if ← atToken .value then
      skip
      readUnless room false false [.flowEntry, closing]
    else return absent

/-- Reads the key and the value of an entry that is an item of a flow sequence. -/
def flowEntryOfSequence (room : Nat) : Reader (Node × Node) := do
  match room with
  | 0 => fail .unexpectedToken
  | room + 1 =>
    let key ← readUnless room false false [.value, .flowEntry, .flowSequenceEnd]
    let value ← flowValue room .flowSequenceEnd
    return (key, value)

/-- Reads the items of a flow sequence and its end; before all but the first stands a comma. A key
begins a mapping with one entry. -/
def flowItems (room : Nat) (first : Bool) : Reader (List Node) := do
  match room with
  | 0 => fail .unexpectedToken
  | room + 1 =>
    if ← atToken .flowSequenceEnd then skip; return []
    if !first then expect .flowEntry
    if ← atToken .key then
      skip
      let entry ← opened (flowEntryOfSequence room)
      return .mapping .mapping [entry] :: (← flowItems room false)
    else if ← atToken .flowSequenceEnd then skip; return []
    else
      let item ← read room false false
      return item :: (← flowItems room false)

/-- Reads the entries of a flow mapping and its end; before all but the first stands a comma. A
node without a key mark is a key without a value. -/
def flowEntries (room : Nat) (first : Bool) : Reader (List (Node × Node)) := do
  match room with
  | 0 => fail .unexpectedToken
  | room + 1 =>
    if ← atToken .flowMappingEnd then skip; return []
    if !first then expect .flowEntry
    if ← atToken .key then
      skip
      let key ← readUnless room false false [.value, .flowEntry, .flowMappingEnd]
      let value ← flowValue room .flowMappingEnd
      return (key, value) :: (← flowEntries room false)
    else if ← atToken .flowMappingEnd then skip; return []
    else
      let key ← read room false false
      return (key, absent) :: (← flowEntries room false)

end

/-! ## Documents -/

/-- The handles that need no directive. -/
def defaultHandles : Table String String := Table.ofList [("!", "!"), ("!!", coreTag)]

/-- Reads the directives before a document. At most one gives the version, whose first number is
one, and at most one the meaning of each handle. -/
def directives (room : Nat) (versioned : Bool) (handles : Table String String) :
    Reader (Table String String) := do
  match room with
  | 0 => return handles
  | room + 1 =>
    match ← peek with
    | some (.versionDirective major) =>
      if versioned || major != 1 then fail .badDirective
      skip
      directives room true handles
    | some (.tagDirective handle start) =>
      if handles.has handle then fail .badDirective
      skip
      directives room versioned (handles.set handle start)
    | some .otherDirective =>
      skip
      directives room versioned handles
    | _ => return handles

/-- Passes over marks of the end of a document. -/
def skipEnds (room : Nat) : Reader Unit := do
  match room with
  | 0 => return
  | room + 1 =>
    if ← atToken .documentEnd then
      skip
      skipEnds room

/-- Whether a directive follows. -/
def atDirective : Reader Bool := do
  match ← peek with
  | some (.versionDirective _) => return true
  | some (.tagDirective _ _) => return true
  | some .otherDirective => return true
  | _ => return false

/-- Reads the content of a document after its start mark. -/
def content (room : Nat) : Reader Node := do
  if (← peek).isNone || (← atDirective) || (← atAny [.documentStart, .documentEnd]) then
    return absent
  else read room true false

/-- Reads the only document of a text, if there is one. -/
def document (room : Nat) : Reader (Option Node) := do
  if (← peek).isNone then return none
  let explicit := (← atDirective) || (← atToken .documentStart)
  let node ←
    if explicit then
      let handles ← directives room false {}
      expect .documentStart
      -- the handles that are always there give way to directives
      let missing := defaultHandles.filter fun handle _ => !handles.has handle
      modify fun s => { s with handles := handles.update missing.entries }
      content room
    else read room true false
  skipEnds room
  if (← peek).isNone then return some node
  -- the directives of a second document are read before it is refused
  let _ ← directives room false {}
  let _ ← peek
  fail .secondDocument

/-- The only document of the tokens of a text, if there is one. -/
def ofTokens [Platform] (scanned : Scanned) : Except Fault (Option Node) := do
  let room := 4 * scanned.tokens.length + 8
  let (node, _) ← document room
    ⟨scanned.tokens, scanned.fault, Platform.nesting, defaultHandles, {}⟩
  return node

end Node

end ActionRehearsal.Yaml
