import ActionRehearsal.Definition.Basic
import ActionRehearsal.Text.Blank
import ActionRehearsal.Text.Lines
/-!
# Commands of a script

The commands of a script are its trimmed lines, without empty ones and comments.
-/

set_option autoImplicit false

namespace ActionRehearsal

open ActionRehearsal.Text

/-- Whether a trimmed line is a command. -/
def isCommand : List Char → Bool
  | [] => false
  | c :: _ => c != '#'

/-- The commands of a script given as its characters. -/
def commandLines (script : List Char) : List (List Char) :=
  ((splitAtNewlines script).map trim).filter isCommand

/-- The commands of a script. -/
def commands (script : String) : List String := (commandLines script.toList).map String.ofList

/-- The commands of a step; a step without a script has none. -/
def Step.commands (step : Step) : List String :=
  match step.script? with
  | some script => ActionRehearsal.commands script
  | none => []

end ActionRehearsal
