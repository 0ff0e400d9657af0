import ActionRehearsal.Yaml.Cursor
/-!
# Tokens

The smallest meaningful parts of a YAML text, and the reading of those with an inner form:
anchors, aliases, tags and directives. The start and the end of a block collection are tokens of
their own, which stand for changes of indentation.
-/

set_option autoImplicit false

namespace ActionRehearsal.Yaml

/-- A token. A tag is a handle, if it has one, and what follows it; a scalar remembers whether it
was written plainly. -/
inductive Token where
  | versionDirective (major : Nat)
  | tagDirective (handle start : String)
  | otherDirective
  | documentStart
  | documentEnd
  | blockSequenceStart
  | blockMappingStart
  | blockEnd
  | flowSequenceStart
  | flowSequenceEnd
  | flowMappingStart
  | flowMappingEnd
  | flowEntry
  | blockEntry
  | key
  | value
  | alias (name : String)
  | anchor (name : String)
  | tag (handle : Option String) (suffix : String)
  | scalar (text : String) (plain : Bool)
  deriving DecidableEq

/-- The tokens of a text, up to its end or to the first fault in it. -/
structure Scanned where
  tokens : List Token
  fault : Option Fault

/-- Letters, digits, hyphen and underscore. -/
def isWordChar (c : Char) : Bool := c.isAlphanum || c = '-' || c = '_'

/-- Reads a non-empty word. -/
def word (cause : Malformed) : Scan String := do
  let run ← Scan.takeWhile isWordChar
  if run.isEmpty then fail cause
  return String.ofList run

/-- The characters besides gaps that may follow an anchor or alias. -/
def afterAnchor : List Char := ['?', ':', ',', ']', '}', '%', '@', '`']

/-- Reads the name of an anchor or alias after its mark. -/
def anchorName : Scan String := do
  Scan.skip 1
  let name ← word .badAnchor
  Scan.demandEndOr (fun c => isGap c || afterAnchor.contains c) .badAnchor
  return name

/-! ## Tags -/

/-- The characters of a tag other than the escape mark. -/
def isTagChar (c : Char) : Bool :=
  isWordChar c || [';', '/', '?', ':', '@', '&', '=', '+', '$', ',', '.', '!', '~', '*', '\'',
    '(', ')', '[', ']'].contains c

/-- Reads a run of escaped bytes inside a tag, each written as a percent sign and two hexadecimal
digits. -/
def tagEscapes (hexNumber : Scan Nat) (room : Nat) (found : List UInt8) : Scan (List UInt8) := do
  match room with
  | 0 => return found
  | room + 1 =>
    if (← Scan.peek) = some '%' then
      Scan.skip 1
      let n ← hexNumber
      tagEscapes hexNumber room (found ++ [n.toUInt8])
    else return found

/-- Reads the text of a tag, in which escaped bytes stand for the characters they encode. -/
def tagText (hexNumber : Scan Nat) (decode? : List UInt8 → Option String) (room : Nat)
    (found : String) : Scan String := do
  match room with
  | 0 => return found
  | room + 1 =>
    let run ← Scan.takeWhile isTagChar
    let found := found ++ String.ofList run
    if (← Scan.peek) = some '%' then
      match decode? (← tagEscapes hexNumber (← Scan.room) []) with
      | none => fail .badTag
      | some text => tagText hexNumber decode? room (found ++ text)
    else return found

/-- Reads a tag handle: one exclamation mark alone, or a word between two. -/
def tagHandle (cause : Malformed) : Scan String := do
  Scan.expect (· = '!') cause
  if (← Scan.peek) = some ' ' then return "!"
  let run ← Scan.takeWhile isWordChar
  Scan.expect (· = '!') cause
  return "!" ++ String.ofList run ++ "!"

/-- Whether an exclamation mark occurs before the next space or line end. -/
def hasSecondMark (rest : List Char) : Bool :=
  (rest.takeWhile fun c => !isSpaceOrBreak c).contains '!'

end ActionRehearsal.Yaml
