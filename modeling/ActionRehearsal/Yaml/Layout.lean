import ActionRehearsal.Text.Utf8
import ActionRehearsal.Yaml.BlockScalar
import ActionRehearsal.Yaml.PlainScalar
import ActionRehearsal.Yaml.QuotedScalar
import ActionRehearsal.Yaml.Token
/-!
# Layout

`Layout.scanned` turns a text into its tokens. Indentation becomes starts and ends of block
collections. A mapping key written without a mark is recognised only by the colon after it: the
place of a token that may begin one is remembered, and the colon marks that place. The tokens
are kept in the order in which they are read, each with the marks that go before it, and
`Layout.marked` writes the marks out at the end.

Where there is a fault in the text, the tokens before it still count: what is wrong with those is
found first. But a token that may begin a key is not settled before that is known, and neither are
those after it.
-/

set_option autoImplicit false

namespace ActionRehearsal.Yaml

/-- What goes before a token: nothing, the mark of a key, or the start of a mapping with it. -/
inductive Lead where
  | plain
  | key
  | mappingKey
  deriving DecidableEq

/-- A token that may begin a mapping key: its place among the tokens and in the text, and whether
it must begin one. -/
structure PendingKey where
  place : Nat
  required : Bool
  index : Nat
  line : Nat
  column : Nat

/-- The state of reading: the position, the tokens so far, the depth of flow collections, the
columns of the open block collections, whether a key may begin here, and for each flow depth the
token that may begin one. -/
structure Layout where
  cursor : Cursor
  found : Array (Lead × Token)
  depth : Nat
  indent : Int
  outer : List Int
  keyAllowed : Bool
  pending : List (Nat × PendingKey)

namespace Layout

/-- An action that reads tokens. -/
abbrev Reader (α : Type) : Type := StateT Layout (Except Fault) α

/-- The state before the text. -/
def start (text : List Char) : Layout := ⟨Cursor.start text, #[], 0, -1, [], true, []⟩

/-- Runs a scan at the position of the state. -/
def scan {α : Type} (action : Scan α) : Reader α := do
  let s ← get
  let (a, cursor) ← action s.cursor
  set { s with cursor := cursor }
  return a

/-- Adds a token. -/
def emit (token : Token) : Reader Unit :=
  modify fun s => { s with found := s.found.push (.plain, token) }

/-- Adds a token that takes `n` characters. -/
def emitMark (n : Nat) (token : Token) : Reader Unit := do
  scan (Scan.skip n)
  emit token

/-- Sets whether a key may begin at the next token. -/
def allowKey (allowed : Bool) : Reader Unit := modify fun s => { s with keyAllowed := allowed }

/-- Whether the reading is inside a flow collection. -/
def inFlow : Reader Bool := return (← get).depth != 0

/-! ## Keys without a mark -/

/-- The longest distance between the start of a key without a mark and its colon. -/
def keyReach : Nat := 1024

/-- Forgets the pending keys whose line has ended or which are too far back. -/
def dropStale : Reader Unit := do
  let s ← get
  let isStale := fun (entry : Nat × PendingKey) =>
    entry.2.line != s.cursor.line || s.cursor.index > entry.2.index + keyReach
  if s.pending.any fun entry => isStale entry && entry.2.required then fail .missingColon
  set { s with pending := s.pending.filter fun entry => !isStale entry }

/-- Forgets the pending key of the present flow depth. -/
def dropPending : Reader Unit := do
  let s ← get
  match s.pending.lookup s.depth with
  | none => return
  | some key =>
    if key.required then fail .missingColon
    set { s with pending := s.pending.filter fun entry => entry.1 != s.depth }

/-- Remembers the next token as one that may begin a key. In a block collection it must begin one
if it stands at the collection's own column. -/
def savePending : Reader Unit := do
  let s ← get
  if s.keyAllowed then
    dropPending
    -- at the column of an open block mapping nothing but a key may stand
    let required := s.depth == 0 && s.indent == (s.cursor.column : Int)
    let key : PendingKey :=
      ⟨s.found.size, required, s.cursor.index, s.cursor.line, s.cursor.column⟩
    modify fun s => { s with pending := (s.depth, key) :: s.pending }

/-! ## Indentation -/

/-- Ends the block collections that are indented more than `column`; `outer` are their columns,
the innermost one apart. -/
def closeTo (column : Int) (found : Array (Lead × Token)) (indent : Int) :
    List Int → Array (Lead × Token) × Int × List Int
  | [] => (found, indent, [])
  | next :: outer =>
    if column < indent then closeTo column (found.push (.plain, .blockEnd)) next outer
    else (found, indent, next :: outer)

/-- Ends block collections up to the column; flow collections know no indentation. -/
def unwind (column : Int) : Reader Unit := do
  let s ← get
  if s.depth == 0 then
    let (found, indent, outer) := closeTo column s.found s.indent s.outer
    set { s with found := found, indent := indent, outer := outer }

/-- Opens a block collection at the column, unless one is open there. Says whether it did. -/
def open? (column : Int) : Reader Bool := do
  let s ← get
  if s.indent < column then
    set { s with indent := column, outer := s.indent :: s.outer }
    return true
  else return false

/-- The present column. -/
def column : Reader Int := return ((← get).cursor.column : Int)

/-! ## Tokens one by one -/

/-- Passes over spaces, comments and line ends. A new line outside flow collections may begin
with a key. -/
def skipToToken (room : Nat) : Reader Unit := do
  match room with
  | 0 => return
  | room + 1 =>
    scan (do
      let c ← get
      -- a byte order mark may come before everything else
      if c.index = 0 && c.rest.head? = some byteOrderMark then Scan.skip 1
      Scan.skipSpaces
      Scan.skipComment)
    let ended ← scan Scan.lineBreak
    if ended.isEmpty then return
    if !(← inFlow) then allowKey true
    skipToToken room

/-- Reads two hexadecimal digits. -/
def byteDigits : Scan Nat := hexNumber 2 .badTag

/-- Reads the text of a tag, which is not empty. -/
def fullTagText : Scan String := do
  let before := (← get).index
  let text ← tagText byteDigits Text.decodeUtf8? (← Scan.room) ""
  if (← get).index = before then fail .badTag
  return text

/-- Reads a tag: verbatim between angle brackets, a lone exclamation mark, or a handle with what
follows it. -/
def tagToken : Scan Token := do
  let token ← match (← get).rest with
    | _ :: '<' :: _ =>
      Scan.skip 2
      let suffix ← fullTagText
      Scan.expect (· = '>') .badTag
      pure (Token.tag none suffix)
    | _ :: rest =>
      if endOr isGap rest.head? then
        Scan.skip 1
        pure (Token.tag none "!")
      else if hasSecondMark rest then
        let handle ← tagHandle .badTag
        pure (Token.tag (some handle) (← fullTagText))
      else
        Scan.skip 1
        pure (Token.tag (some "!") (← fullTagText))
    | [] => fail .badTag
  Scan.demandEndOr isSpaceOrBreak .badTag
  return token

/-- Reads a number of decimal digits. -/
def decimalDigits : Scan Nat := do
  let run ← Scan.takeWhile Char.isDigit
  if run.isEmpty then fail .badDirective
  match Number.readInteger 10 run with
  | .ok n => return n.toNat
  | .error fault => breakOff (.numeral fault)

/-- Reads a directive with the rest of its line. -/
def directiveToken : Scan Token := do
  Scan.skip 1
  let name ← word .badDirective
  Scan.demandEndOr isSpaceOrBreak .badDirective
  let token ← match name with
    | "YAML" =>
      Scan.skipSpaces
      let major ← decimalDigits
      Scan.expect (· = '.') .badDirective
      let _ ← decimalDigits
      Scan.demandEndOr isSpaceOrBreak .badDirective
      pure (Token.versionDirective major)
    | "TAG" =>
      Scan.skipSpaces
      let handle ← tagHandle .badDirective
      if (← Scan.peek) ≠ some ' ' then fail .badDirective
      Scan.skipSpaces
      let start ← fullTagText
      Scan.demandEndOr isSpaceOrBreak .badDirective
      pure (Token.tagDirective handle start)
    | _ =>
      let _ ← Scan.takeWhile fun c => !isBreak c
      pure Token.otherDirective
  Scan.ignoredLine .badDirective
  return token

/-- Reads a directive or a document mark, which end all block collections. -/
def documentToken (token : Reader Unit) : Reader Unit := do
  unwind (-1)
  dropPending
  allowKey false
  token

/-- Reads the start of a flow collection, which may itself begin a key. -/
def flowStart (token : Token) : Reader Unit := do
  savePending
  modify fun s => { s with depth := s.depth + 1 }
  allowKey true
  emitMark 1 token

/-- Reads the end of a flow collection. -/
def flowEnd (token : Token) : Reader Unit := do
  dropPending
  modify fun s => { s with depth := s.depth - 1 }
  allowKey false
  emitMark 1 token

/-- Reads the comma between the entries of a flow collection. -/
def flowEntry : Reader Unit := do
  allowKey true
  dropPending
  emitMark 1 .flowEntry

/-- Reads the mark of an entry of a block sequence, which may open the sequence. -/
def blockEntry : Reader Unit := do
  if !(← inFlow) then
    if !(← get).keyAllowed then fail .misplacedEntry
    if ← open? (← column) then emit .blockSequenceStart
  allowKey true
  dropPending
  emitMark 1 .blockEntry

/-- Reads the mark of a key, which may open a block mapping. -/
def keyMark : Reader Unit := do
  let flow ← inFlow
  if !flow then
    if !(← get).keyAllowed then fail .misplacedKey
    if ← open? (← column) then emit .blockMappingStart
  allowKey !flow
  dropPending
  emitMark 1 .key

/-- Reads the mark of a value. If a token that may begin a key is pending at this flow depth, it
does begin one, and with it a block mapping if none is open at its column. -/
def valueMark : Reader Unit := do
  let s ← get
  let flow ← inFlow
  match s.pending.lookup s.depth with
  | some key =>
    -- the block mapping opens at the column of the key, not at that of the colon
    let opens ← if flow then pure false else open? key.column
    let lead : Lead := if opens then .mappingKey else .key
    modify fun s => { s with
      pending := s.pending.filter fun entry => entry.1 != s.depth
      found := s.found.modify key.place fun entry => (lead, entry.2) }
    allowKey false
  | none =>
    -- a value whose key is left out
    if !flow then
      if !s.keyAllowed then fail .misplacedValue
      if ← open? (← column) then emit .blockMappingStart
    allowKey !flow
    dropPending
  emitMark 1 .value

/-- Reads a token that may begin a key and after which none may begin. -/
def keyStart (token : Scan Token) : Reader Unit := do
  savePending
  allowKey false
  emit (← scan token)

/-- Reads a plain scalar; after a line end a key may begin. -/
def plainToken : Reader Unit := do
  savePending
  let (text, crossed) ← scan (plainScalar (← inFlow) ((← get).indent + 1))
  allowKey crossed
  emit (.scalar (String.ofList text) true)

/-- Reads a block scalar; a key may begin after it. -/
def blockToken (folded : Bool) : Reader Unit := do
  allowKey true
  dropPending
  let text ← scan (blockScalar folded (← get).indent)
  emit (.scalar (String.ofList text) false)

/-- The marks that a plain scalar cannot start with. -/
def reserved : List Char :=
  ['-', '?', ':', ',', '[', ']', '{', '}', '#', '&', '*', '!', '|', '>', '\'', '"', '%', '@', '`']

/-- Whether a plain scalar starts here. A hyphen can start one before a character that is no gap,
a question mark or colon only outside flow collections. -/
def startsPlain (flow : Bool) (c : Char) (next : Option Char) : Bool :=
  (!isGap c && !reserved.contains c)
    || (!endOr isGap next && (c = '-' || (!flow && (c = '?' || c = ':'))))

/-- Reads one token at a character. -/
def tokenAt [Platform] (c : Char) : Reader Unit := do
  let s ← get
  let flow ← inFlow
  let next := s.cursor.rest[1]?
  let atLineStart := s.cursor.column = 0
  -- what starts a line ends all block collections
  if c = '%' && atLineStart then documentToken (do emit (← scan directiveToken))
  else if atLineStart && s.cursor.atMark '-' then documentToken (emitMark 3 .documentStart)
  else if atLineStart && s.cursor.atMark '.' then documentToken (emitMark 3 .documentEnd)
  -- the marks of collections, entries, keys and values
  else if c = '[' then flowStart .flowSequenceStart
  else if c = '{' then flowStart .flowMappingStart
  else if c = ']' then flowEnd .flowSequenceEnd
  else if c = '}' then flowEnd .flowMappingEnd
  else if c = ',' then flowEntry
  else if c = '-' && endOr isGap next then blockEntry
  else if c = '?' && (flow || endOr isGap next) then keyMark
  else if c = ':' && (flow || endOr isGap next) then valueMark
  -- aliases and properties, and the five styles of scalars
  else if c = '*' then keyStart (return .alias (← anchorName))
  else if c = '&' then keyStart (return .anchor (← anchorName))
  else if c = '!' then keyStart tagToken
  else if c = '|' && !flow then blockToken false
  else if c = '>' && !flow then blockToken true
  else if c = '\'' then keyStart (return .scalar (String.ofList (← quotedScalar false)) false)
  else if c = '"' then keyStart (return .scalar (String.ofList (← quotedScalar true)) false)
  else if startsPlain flow c next then plainToken
  else fail .strayCharacter

/-- Reads what comes next: one token, or the end of the text. Says whether there is more. -/
def readNext [Platform] : Reader Bool := do
  skipToToken ((← get).cursor.rest.length + 1)
  -- the position of the next token ends stale keys and deeper collections
  dropStale
  unwind (← column)
  match (← get).cursor.rest with
  | [] =>
    unwind (-1)
    dropPending
    return false
  | c :: _ =>
    tokenAt c
    dropStale
    return true

/-! ## All tokens -/

/-- The tokens with the marks that go before them written out. -/
def marked : List (Lead × Token) → List Token
  | [] => []
  | (.plain, token) :: rest => token :: marked rest
  | (.key, token) :: rest => .key :: token :: marked rest
  | (.mappingKey, token) :: rest => .blockMappingStart :: .key :: token :: marked rest

/-- The number of tokens of which nothing that is yet to come can change the marks. -/
def settledCount (s : Layout) : Nat :=
  s.pending.foldl (fun count entry => min count entry.2.place) s.found.size

/-- Reads what is left, from a state. At a fault, the tokens that are settled come before it. -/
def readAll [Platform] (room : Nat) (s : Layout) : Scanned :=
  match room with
  | 0 => ⟨marked s.found.toList, none⟩
  | room + 1 => match readNext s with
    | .ok (true, next) => readAll room next
    | .ok (false, last) => ⟨marked last.found.toList, none⟩
    | .error fault => ⟨marked (s.found.toList.take s.settledCount), some fault⟩

/-- The tokens of a text. -/
def scanned [Platform] (text : List Char) : Scanned :=
  if text.all isAllowed then readAll (text.length + 1) (start text)
  else ⟨[], some (.malformed .unprintable)⟩

end Layout

end ActionRehearsal.Yaml
