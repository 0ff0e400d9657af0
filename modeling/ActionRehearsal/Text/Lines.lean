/-!
# Lines of a text

Two notions of line. A script is cut at the newline character alone (`splitAtNewlines`), and every
text has at least one such piece. A document that is scanned is cut at every line boundary
(`boundaryLines`); a boundary ends a line, so a text that ends in one has no empty last line.
-/

set_option autoImplicit false

namespace ActionRehearsal.Text

/-- The pieces of a text between occurrences of a character; the empty text is one empty piece. -/
def splitAtEach (mark : Char) : List Char → List (List Char)
  | [] => [[]]
  | c :: rest =>
    if c = mark then [] :: splitAtEach mark rest
    else match splitAtEach mark rest with
      | [] => [[c]]
      | piece :: pieces => (c :: piece) :: pieces

/-- Pieces joined by a character. -/
def joinWith (mark : Char) : List (List Char) → List Char
  | [] => []
  | [piece] => piece
  | piece :: pieces => piece ++ mark :: joinWith mark pieces

/-- The pieces of a text between newline characters. -/
abbrev splitAtNewlines (text : List Char) : List (List Char) := splitAtEach '\n' text

/-- Pieces joined by newline characters. -/
abbrev joinWithNewlines (pieces : List (List Char)) : List Char := joinWith '\n' pieces

/-- The characters that end a line of a document. The pair of carriage return and newline is one
boundary. -/
def isBoundary (c : Char) : Bool :=
  let n := c.toNat
  (0x0A ≤ n && n ≤ 0x0D) || (0x1C ≤ n && n ≤ 0x1E) || n == 0x85 || n == 0x2028 || n == 0x2029

/-- The lines of a document, without their boundaries. -/
def boundaryLines : List Char → List (List Char)
  | [] => []
  | '\r' :: '\n' :: rest => [] :: boundaryLines rest
  | c :: rest =>
    if isBoundary c then [] :: boundaryLines rest
    else match boundaryLines rest with
      | [] => [[c]]
      | line :: lines => (c :: line) :: lines

/-- Every line end written as a newline: a carriage return, with or without a newline after it,
becomes one newline. -/
def unifyNewlines : List Char → List Char
  | [] => []
  | '\r' :: '\n' :: rest => '\n' :: unifyNewlines rest
  | c :: rest => (if c = '\r' then '\n' else c) :: unifyNewlines rest

end ActionRehearsal.Text
