import ActionRehearsal.Text.Blank
/-!
# Searching a text

Building blocks for the small patterns of the library. A *matcher* reads a value at the start of
a text and may fail. `literal` reads given characters, `skipBlank` passes over blank ones,
`shortestRun` takes as few characters as the matcher after it allows, and `firstMatch` tries a
matcher at every position from the left.
-/

set_option autoImplicit false

namespace ActionRehearsal.Text

/-- What follows `expected` in a text that starts with it. -/
def literal : List Char → List Char → Option (List Char)
  | [], s => some s
  | _ :: _, [] => none
  | e :: expected, c :: s => if e = c then literal expected s else none

/-- What follows the blank characters at the start of a text. -/
def skipBlank (s : List Char) : List Char := s.dropWhile isBlank

/-- The shortest non-empty run of characters other than the newline after which `next` succeeds,
with what `next` reads there. -/
def shortestRun {α : Type} (next : List Char → Option α) : List Char → Option (List Char × α)
  | [] => none
  | c :: s =>
    if c = '\n' then none
    else match next s with
      | some a => some ([c], a)
      | none => (shortestRun next s).map fun found => (c :: found.1, found.2)

/-- What `matcher` reads at the leftmost position where it succeeds. -/
def firstMatch {α : Type} (matcher : List Char → Option α) : List Char → Option α
  | [] => matcher []
  | c :: s => match matcher (c :: s) with
    | some a => some a
    | none => firstMatch matcher s

/-- Whether `part` occurs in a text as a run of consecutive characters. -/
def occursIn (part : List Char) : List Char → Bool
  | [] => part.isEmpty
  | c :: s => part.isPrefixOf (c :: s) || occursIn part s

end ActionRehearsal.Text

/-- Whether `part` occurs in the string as a run of consecutive characters. -/
def String.holds (s part : String) : Bool :=
  ActionRehearsal.Text.occursIn part.toList s.toList
