import ActionRehearsal.Yaml.Fault
/-!
# Reading position

A `Cursor` is a position in a YAML text: what is left to read, how many characters lie before it,
and the line and column, on which the meaning of indentation depends. A `Scan` reads at a cursor
and moves it, or finds a fault.
-/

set_option autoImplicit false

namespace ActionRehearsal.Yaml

/-- The characters that end a line. -/
def isBreak (c : Char) : Bool :=
  c = '\n' || c = '\r' || c = '\u0085' || c = '\u2028' || c = '\u2029'

/-- Spaces and line ends. -/
def isSpaceOrBreak (c : Char) : Bool := c = ' ' || isBreak c

/-- Spaces, tabs and line ends. -/
def isGap (c : Char) : Bool := c = '\t' || isSpaceOrBreak c

/-- Whether the text ends here or goes on with a character of the class. -/
def endOr (isMember : Char → Bool) : Option Char → Bool
  | none => true
  | some c => isMember c

/-- Whether the text goes on with a character of the class. -/
def nextIs (isMember : Char → Bool) : Option Char → Bool
  | none => false
  | some c => isMember c

/-- The characters that a YAML text may hold. -/
def isAllowed (c : Char) : Bool :=
  let n := c.toNat
  n == 0x09 || n == 0x0A || n == 0x0D || (0x20 ≤ n && n ≤ 0x7E) || n == 0x85
    || (0xA0 ≤ n && n ≤ 0xD7FF) || (0xE000 ≤ n && n ≤ 0xFFFD) || 0x10000 ≤ n

/-- The mark that may stand at the start of a text; it takes no column. -/
def byteOrderMark : Char := '\uFEFF'

/-- A position in a text. -/
structure Cursor where
  rest : List Char
  index : Nat
  line : Nat
  column : Nat

namespace Cursor

/-- The start of a text. -/
def start (text : List Char) : Cursor := ⟨text, 0, 0, 0⟩

/-- The position after the next character. A carriage return before a newline ends no line of its
own. -/
def step (c : Cursor) : Cursor :=
  match c.rest with
  | [] => c
  | '\r' :: '\n' :: rest => ⟨'\n' :: rest, c.index + 1, c.line, c.column + 1⟩
  | ch :: rest =>
    if isBreak ch then ⟨rest, c.index + 1, c.line + 1, 0⟩
    else if ch = byteOrderMark then ⟨rest, c.index + 1, c.line, c.column⟩
    else ⟨rest, c.index + 1, c.line, c.column + 1⟩

/-- The position `n` characters on. -/
def advance : Nat → Cursor → Cursor
  | 0, c => c
  | n + 1, c => advance n c.step

/-- Whether a document mark made of the character `mark` three times stands here. -/
def atMark (c : Cursor) (mark : Char) : Bool :=
  match c.rest with
  | x :: y :: z :: rest => x = mark && y = mark && z = mark && endOr isGap rest.head?
  | _ => false

/-- Whether either document mark stands here. -/
def atDocumentMark (c : Cursor) : Bool := c.atMark '-' || c.atMark '.'

end Cursor

/-- An action that reads at a cursor. -/
abbrev Scan (α : Type) : Type := StateT Cursor (Except Fault) α

namespace Scan

/-- The next character. -/
def peek : Scan (Option Char) := return (← get).rest.head?

/-- Passes over `n` characters. -/
def skip (n : Nat) : Scan Unit := modify (Cursor.advance n)

/-- Reads the longest run of characters of the class. -/
def takeWhile (isMember : Char → Bool) : Scan (List Char) := do
  let run := (← get).rest.takeWhile isMember
  skip run.length
  return run

/-- Passes over spaces. -/
def skipSpaces : Scan Unit := do
  let _ ← takeWhile (· = ' ')

/-- Passes over the next character if it belongs to the class; fails otherwise. -/
def expect (isMember : Char → Bool) (cause : Malformed) : Scan Unit := do
  if nextIs isMember (← peek) then skip 1 else fail cause

/-- Fails unless the text ends here or goes on with a character of the class. -/
def demandEndOr (isMember : Char → Bool) (cause : Malformed) : Scan Unit := do
  if !endOr isMember (← peek) then fail cause

/-- Reads a line end, if one stands here. The line and paragraph separators stand for
themselves, all other line ends for a newline. -/
def lineBreak : Scan (List Char) := do
  match (← get).rest with
  | '\r' :: '\n' :: _ => skip 2; return ['\n']
  | c :: _ =>
    if c = '\u2028' || c = '\u2029' then skip 1; return [c]
    else if isBreak c then skip 1; return ['\n']
    else return []
  | [] => return []

/-- Passes over a comment, up to the end of its line. -/
def skipComment : Scan Unit := do
  if (← peek) = some '#' then
    let _ ← takeWhile fun c => !isBreak c

/-- Passes over the rest of a line, on which only a comment may stand. -/
def ignoredLine (cause : Malformed) : Scan Unit := do
  skipSpaces
  skipComment
  demandEndOr isBreak cause
  let _ ← lineBreak

/-- A number of repetitions that no loop from here on can exceed. -/
def room : Scan Nat := return (← get).rest.length + 1

end Scan

end ActionRehearsal.Yaml
