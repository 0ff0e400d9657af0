import ActionRehearsal.Text.Printable
/-!
# Quoted text

The quoted form of a text shows it unambiguously on one line: single quotes around it, unless it
holds a single quote and no double quote; the backslash, the quote itself, newline, carriage
return and tab written with a backslash; any other unprintable character written by its code
point. Bytes are quoted in the same way after the letter `b`, with every byte outside printable
ASCII written in two hexadecimal digits.
-/

set_option autoImplicit false

namespace ActionRehearsal.Text

/-- The lower-case hexadecimal digits of `n`, `width` of them. -/
def hexDigits (width n : Nat) : List Char :=
  match width with
  | 0 => []
  | width + 1 => hexDigits width (n / 16) ++ [Nat.digitChar (n % 16)]

/-- The quotation mark that a text with these characters is put in. -/
def quoteMark (s : List Char) : Char :=
  if s.contains '\'' && !s.contains '"' then '"' else '\''

/-- A code point in the shortest of the three forms that hold it. -/
def escapedCodePoint (n : Nat) : List Char :=
  if n < 0x100 then '\\' :: 'x' :: hexDigits 2 n
  else if n < 0x10000 then '\\' :: 'u' :: hexDigits 4 n
  else '\\' :: 'U' :: hexDigits 8 n

/-- The written form of one character between the marks `mark`. -/
def quotedChar (mark c : Char) : List Char :=
  if c = mark || c = '\\' then ['\\', c]
  else if c = '\n' then ['\\', 'n']
  else if c = '\r' then ['\\', 'r']
  else if c = '\t' then ['\\', 't']
  else if isPrintable c then [c]
  else escapedCodePoint c.toNat

/-- The quoted form of a text. -/
def quoted (s : String) : String :=
  let mark := quoteMark s.toList
  String.ofList (mark :: s.toList.flatMap (quotedChar mark) ++ [mark])

/-- The written form of one byte between the marks `mark`. -/
def quotedByte (mark : Char) (b : UInt8) : List Char :=
  if 0x80 ≤ b.toNat then '\\' :: 'x' :: hexDigits 2 b.toNat
  else quotedChar mark (Char.ofNat b.toNat)

/-- The quoted form of a sequence of bytes. -/
def quotedBytes (bytes : List UInt8) : String :=
  let mark := quoteMark (bytes.map fun b => Char.ofNat b.toNat)
  String.ofList ('b' :: mark :: bytes.flatMap (quotedByte mark) ++ [mark])

end ActionRehearsal.Text
