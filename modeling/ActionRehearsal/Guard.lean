import ActionRehearsal.Definition.Basic
import ActionRehearsal.Text.Search
/-!
# Guards

The guard of a step compares a recorded output with a value in single quotes:
`steps.<id>.outputs.<name> == 'value'`. The first such comparison in a guard decides; a guard
without one holds.
-/

set_option autoImplicit false

namespace ActionRehearsal

open ActionRehearsal.Text

/-- A comparison of an output with a value. -/
structure Comparison where
  id : List Char
  name : List Char
  expected : List Char
  deriving DecidableEq

namespace Comparison

/-- What comes before the id. -/
def opening : List Char := "steps.".toList

/-- What stands between the id and the name. -/
def middle : List Char := ".outputs.".toList

/-- Reads the rest of a comparison after the name: two equality signs, with blank characters around
them, and a non-empty value up to the next single quote. -/
def expected? (s : List Char) : Option (List Char) := do
  let s ← literal ['=', '='] (skipBlank s)
  let s ← literal ['\''] (skipBlank s)
  let (value, _) ← shortestRun (literal ['\'']) s
  return value

/-- Reads a comparison at the start of a text. -/
def read? (s : List Char) : Option Comparison := do
  let s ← literal opening s
  let (id, name, value) ←
    shortestRun (fun s => (literal middle s).bind (shortestRun expected?)) s
  return ⟨id, name, value⟩

/-- The first comparison in a guard. -/
def first? (guard : String) : Option Comparison := firstMatch read? guard.toList

/-- The place of the output that is compared. -/
def key (c : Comparison) : String :=
  outputKey (some (String.ofList c.id)) (String.ofList c.name)

/-- Whether the output is recorded with exactly the expected value. -/
def holds (c : Comparison) (outputs : Table String String) : Bool :=
  outputs.get? c.key == some (String.ofList c.expected)

end Comparison

/-- Whether a guard holds for the recorded outputs. No guard and a guard without a comparison
hold. -/
def guardHolds (guard : Option String) (outputs : Table String String) : Bool :=
  match (firstGiven [guard]).bind Comparison.first? with
  | none => true
  | some comparison => comparison.holds outputs

end ActionRehearsal
