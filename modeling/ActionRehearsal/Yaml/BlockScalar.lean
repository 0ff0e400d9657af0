import ActionRehearsal.Yaml.Cursor
/-!
# Block scalars

A block scalar is a run of lines that are indented more than what they belong to. Its header says
whether line ends are kept or folded, what becomes of the last ones, and optionally how far the
text is indented; otherwise the deepest indentation before the first text decides.
-/

set_option autoImplicit false

namespace ActionRehearsal.Yaml

/-- What becomes of the line ends after the last text: one is kept, none, or all. -/
inductive Chomping where
  | clip
  | strip
  | keep
  deriving DecidableEq

/-- The header of a block scalar. -/
structure BlockHeader where
  chomping : Chomping
  indent : Option Nat

/-- The chomping mark, if the character is one. -/
def Chomping.ofMark? : Option Char → Option Chomping
  | some '+' => some .keep
  | some '-' => some .strip
  | _ => none

/-- The indentation mark, a digit, if the character is one. -/
def indentMark? : Option Char → Option Nat
  | some c => if c.isDigit then some (c.toNat - '0'.toNat) else none
  | none => none

/-- Reads an indentation mark, if one stands here; zero is refused. -/
def indentMark : Scan (Option Nat) := do
  match indentMark? (← Scan.peek) with
  | none => return none
  | some 0 => fail .badBlockHeader
  | some n => Scan.skip 1; return some n

/-- Reads a chomping mark, if one stands here. -/
def chompingMark : Scan (Option Chomping) := do
  match Chomping.ofMark? (← Scan.peek) with
  | none => return none
  | some chomping => Scan.skip 1; return some chomping

/-- Reads the marks of a header, in either order, and the rest of its line. -/
def blockHeader : Scan BlockHeader := do
  let header ← match ← chompingMark with
    | some chomping => pure ⟨chomping, ← indentMark⟩
    | none =>
      let indent ← indentMark
      if indent.isSome then pure ⟨(← chompingMark).getD .clip, indent⟩
      else pure ⟨.clip, none⟩
  Scan.demandEndOr isSpaceOrBreak .badBlockHeader
  Scan.ignoredLine .badBlockHeader
  return header

/-- Reads the empty lines at the start of a block scalar. Gives their line ends and the deepest
column reached on them. -/
def leadingBreaks (room : Nat) (found : List Char) (deepest : Nat) : Scan (List Char × Nat) := do
  match room with
  | 0 => return (found, deepest)
  | room + 1 =>
    match ← Scan.peek with
    | some ' ' =>
      Scan.skip 1
      leadingBreaks room found (max deepest (← get).column)
    | some c =>
      if isBreak c then
        let found := found ++ (← Scan.lineBreak)
        leadingBreaks room found deepest
      else return (found, deepest)
    | none => return (found, deepest)

/-- Passes over spaces up to the column. -/
def skipToColumn (indent : Nat) : Scan Unit := do
  let c ← get
  Scan.skip ((c.rest.takeWhile (· = ' ')).length.min (indent - c.column))

/-- Reads empty lines, and the indentation of the line after them. -/
def blockBreaks (indent room : Nat) (found : List Char) : Scan (List Char) := do
  match room with
  | 0 => return found
  | room + 1 =>
    skipToColumn indent
    if nextIs isBreak (← Scan.peek) then
      let found := found ++ (← Scan.lineBreak)
      blockBreaks indent room found
    else return found

/-- Reads the lines of a block scalar. `found` is the text so far, `breaks` the line ends of empty
lines before the next text line. Gives the text with the end of its last line apart, and the line
ends after that. -/
def blockLines (folded : Bool) (indent room : Nat) (found last breaks : List Char) :
    Scan (List Char × List Char × List Char) := do
  match room with
  | 0 => return (found, last, breaks)
  | room + 1 =>
    let c ← get
    if c.column ≠ indent || c.rest.isEmpty then return (found, last, breaks)
    let startsWithText := !nextIs (fun c => c = ' ' || c = '\t') c.rest.head?
    let line ← Scan.takeWhile fun c => !isBreak c
    let found := found ++ breaks ++ line
    let last ← Scan.lineBreak
    let breaks ← blockBreaks indent (← Scan.room) []
    let c ← get
    if c.column ≠ indent || c.rest.isEmpty then return (found, last, breaks)
    let folds := folded && last = ['\n'] && startsWithText
      && !nextIs (fun c => c = ' ' || c = '\t') c.rest.head?
    let join := if folds then (if breaks.isEmpty then [' '] else []) else last
    blockLines folded indent room (found ++ join) [] breaks

/-- Reads a block scalar inside a collection that is indented by `indent`, from its mark on. -/
def blockScalar (folded : Bool) (indent : Int) : Scan (List Char) := do
  Scan.skip 1
  let header ← blockHeader
  let least := (indent + 1).toNat.max 1
  let (breaks, indent) ← match header.indent with
    | none =>
      let (breaks, deepest) ← leadingBreaks (← Scan.room) [] 0
      pure (breaks, least.max deepest)
    | some n =>
      let indent := least + n - 1
      pure (← blockBreaks indent (← Scan.room) [], indent)
  let (found, last, breaks) ← blockLines folded indent (← Scan.room) [] [] breaks
  match header.chomping with
  | .strip => return found
  | .clip => return found ++ last
  | .keep => return found ++ last ++ breaks

end ActionRehearsal.Yaml
