import ActionRehearsal.Platform
import ActionRehearsal.Yaml.Cursor
/-!
# Quoted scalars

Between single quotes a quote is written twice and nothing else is special. Between double quotes
a backslash starts an escape, also of half of a surrogate pair. In both, line ends are folded
together with the spaces around them, and a document mark at the start of a line is refused.
-/

set_option autoImplicit false

namespace ActionRehearsal.Yaml

/-- The characters that a one-letter escape stands for. -/
def escapeTable : List (Char × Char) := [
  ('0', '\x00'), ('a', '\x07'), ('b', '\x08'), ('t', '\t'), ('\t', '\t'), ('n', '\n'),
  ('v', '\x0B'), ('f', '\x0C'), ('r', '\r'), ('e', '\x1B'), (' ', ' '), ('"', '"'), ('\\', '\\'),
  ('/', '/'), ('N', '\u0085'), ('_', '\u00A0'), ('L', '\u2028'), ('P', '\u2029')]

/-- The letters of escapes by code point, with their number of hexadecimal digits. -/
def codeEscapes : List (Char × Nat) := [('x', 2), ('u', 4), ('U', 8)]

/-- The value of a hexadecimal digit. -/
def hexValue? (c : Char) : Option Nat :=
  if c.isDigit then some (c.toNat - '0'.toNat)
  else if 'a' ≤ c && c ≤ 'f' then some (c.toNat - 'a'.toNat + 10)
  else if 'A' ≤ c && c ≤ 'F' then some (c.toNat - 'A'.toNat + 10)
  else none

/-- Reads a number of exactly `n` hexadecimal digits. -/
def hexNumber (n : Nat) (cause : Malformed) : Scan Nat := do
  let digits := ((← get).rest.take n).filterMap hexValue?
  if digits.length < n then fail cause
  Scan.skip n
  return digits.foldl (fun value d => value * 16 + d) 0

/-- Reads the empty lines after a line end inside a quoted scalar, and the spaces before the next
text. -/
def quotedBreaks (room : Nat) (found : List Char) : Scan (List Char) := do
  match room with
  | 0 => return found
  | room + 1 =>
    if (← get).atDocumentMark then fail .unclosedQuote
    let _ ← Scan.takeWhile fun c => c = ' ' || c = '\t'
    if nextIs isBreak (← Scan.peek) then
      let found := found ++ (← Scan.lineBreak)
      quotedBreaks room found
    else return found

/-- The character with a code point: a stand-in for half of a surrogate pair, and a breakdown beyond
the last character. -/
def charWithCode [Platform] (n : Nat) : Scan Char := do
  match Half.ofCodePoint? n with
  | some half => return Platform.standIn half
  | none => if h : n.isValidChar then return Char.ofNatAux n h else breakOff (.codePoint n)

/-- Reads an escape after its backslash. -/
def escaped [Platform] : Scan (List Char) := do
  match ← Scan.peek with
  | none => fail .badEscape
  | some c =>
    match escapeTable.lookup c, codeEscapes.lookup c with
    | some meant, _ => Scan.skip 1; return [meant]
    | none, some width =>
      Scan.skip 1
      let c ← charWithCode (← hexNumber width .badEscape)
      return [c]
    | none, none =>
      if isBreak c then
        let _ ← Scan.lineBreak
        quotedBreaks (← Scan.room) []
      else fail .badEscape

/-- Reads text without gaps inside a quoted scalar, up to its end or the next gap. -/
def quotedRun [Platform] (double : Bool) (room : Nat) (found : List Char) : Scan (List Char) := do
  match room with
  | 0 => return found
  | room + 1 =>
    let run ← Scan.takeWhile fun c => !(c = '\'' || c = '"' || c = '\\' || isGap c)
    let found := found ++ run
    match (← get).rest with
    | '\'' :: next =>
      if double then Scan.skip 1; quotedRun double room (found ++ ['\''])
      else if next.head? = some '\'' then Scan.skip 2; quotedRun double room (found ++ ['\''])
      else return found
    | '"' :: _ =>
      if double then return found
      else Scan.skip 1; quotedRun double room (found ++ ['"'])
    | '\\' :: _ =>
      Scan.skip 1
      if double then
        let meant ← escaped
        quotedRun double room (found ++ meant)
      else quotedRun double room (found ++ ['\\'])
    | _ => return found

/-- Reads a gap inside a quoted scalar and gives the text that stands for it. -/
def quotedGap : Scan (List Char) := do
  let spaces ← Scan.takeWhile fun c => c = ' ' || c = '\t'
  match ← Scan.peek with
  | none => fail .unclosedQuote
  | some c =>
    if isBreak c then
      let first ← Scan.lineBreak
      let more ← quotedBreaks (← Scan.room) []
      let lead := if first ≠ ['\n'] then first else if more.isEmpty then [' '] else []
      return lead ++ more
    else return spaces

/-- Reads the runs and gaps of a quoted scalar up to its closing mark. -/
def quotedParts [Platform] (double : Bool) (room : Nat) (found : List Char) : Scan (List Char) := do
  match room with
  | 0 => fail .unclosedQuote
  | room + 1 =>
    let found := found ++ (← quotedRun double (← Scan.room) [])
    if (← Scan.peek) = some (if double then '"' else '\'') then
      Scan.skip 1
      return found
    let found := found ++ (← quotedGap)
    quotedParts double room found

/-- Reads a quoted scalar, from its opening to its closing mark. -/
def quotedScalar [Platform] (double : Bool) : Scan (List Char) := do
  Scan.skip 1
  quotedParts double (← Scan.room) []

end ActionRehearsal.Yaml
