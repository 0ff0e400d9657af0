/-!
# Blank characters and trimming

`isBlank` holds of Unicode white space and of the four information separators U+001C to U+001F.
Trimming removes the blank characters at both ends of a text and nothing else. The zero-width
characters U+200B and U+FEFF are not blank.
-/

set_option autoImplicit false

namespace ActionRehearsal.Text

/-- Unicode white space together with the information separators U+001C to U+001F. -/
def isBlank (c : Char) : Bool :=
  let n := c.toNat
  (0x09 ≤ n && n ≤ 0x0D) || (0x1C ≤ n && n ≤ 0x20) || n == 0x85 || n == 0xA0 || n == 0x1680
    || (0x2000 ≤ n && n ≤ 0x200A) || n == 0x2028 || n == 0x2029 || n == 0x202F || n == 0x205F
    || n == 0x3000

/-- The text without the blank characters at its start. -/
def trimStart (s : List Char) : List Char := s.dropWhile isBlank

/-- The text without the blank characters at its end. -/
def trimEnd (s : List Char) : List Char := (s.reverse.dropWhile isBlank).reverse

/-- The text without the blank characters at its two ends. -/
def trim (s : List Char) : List Char := trimEnd (trimStart s)

/-- `trim` on strings. -/
def trimmed (s : String) : String := String.ofList (trim s.toList)

end ActionRehearsal.Text
