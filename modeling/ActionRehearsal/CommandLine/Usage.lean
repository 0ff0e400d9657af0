import ActionRehearsal.Text.Likeness
import ActionRehearsal.Text.Quoted
/-!
# Usage faults

What may be wrong with the arguments of the program, and how it is said. An unknown option or
command is answered with those most like it.
-/

set_option autoImplicit false

namespace ActionRehearsal.CommandLine

open ActionRehearsal.Text

/-- What is wrong with the arguments. -/
inductive UsageFault where
  | unknownOption (name : String) (alikes : List String)
  | missingValue (option : String)
  | unexpectedValue (option : String)
  | extraArguments (first : String) (rest : List String)
  | missingCommand
  | unknownCommand (name : String) (alikes : List String)
  | notAPair (argument : String)
  deriving DecidableEq

/-- What is added about the names that may have been meant. -/
def alikesHint : List String → String
  | [] => ""
  | [name] => " Did you mean " ++ quoted name ++ "?"
  | names => " (Did you mean one of: " ++ ", ".intercalate (names.map quoted) ++ "?)"

/-- The wording of a usage fault. -/
def UsageFault.message : UsageFault → String
  | .unknownOption name alikes => "No such option " ++ quoted name ++ "." ++ alikesHint alikes
  | .missingValue option => "Option " ++ quoted option ++ " requires an argument."
  | .unexpectedValue option => "Option " ++ quoted option ++ " does not take a value."
  | .extraArguments first rest =>
    "Got unexpected extra argument" ++ (if rest.isEmpty then "" else "s")
      ++ " (" ++ " ".intercalate (first :: rest) ++ ")"
  | .missingCommand => "Missing command."
  | .unknownCommand name alikes => "No such command " ++ quoted name ++ "." ++ alikesHint alikes
  | .notAPair argument => "Invalid value for --input: expected KEY=VALUE, got " ++ quoted argument

/-- Whether a character is a parameter of a display control: a digit or one of `:;<=>?`. -/
def isControlParameter (c : Char) : Bool := '0' ≤ c && c ≤ '?'

/-- Whether a character may stand between the parameters and the end of a display control. -/
def isControlIntermediate (c : Char) : Bool := ' ' ≤ c && c ≤ '/'

/-- Whether a character ends a display control. -/
def isControlEnd (c : Char) : Bool := '@' ≤ c && c ≤ '~'

/-- What follows a display control at the start of a text. -/
def afterControl? (s : List Char) : Option (List Char) :=
  match s with
  | '\x1b' :: '[' :: rest =>
    match (rest.dropWhile isControlParameter).dropWhile isControlIntermediate with
    | c :: rest => if isControlEnd c then some rest else none
    | [] => none
  | _ => none

/-- The text without display controls; `room` bounds its length. -/
def withoutControlsFrom : Nat → List Char → List Char
  | 0, s => s
  | _, [] => []
  | room + 1, c :: s => match afterControl? (c :: s) with
    | some rest => withoutControlsFrom room rest
    | none => c :: withoutControlsFrom room s

/-- The text without display controls. -/
def withoutControls (s : String) : String :=
  String.ofList (withoutControlsFrom s.toList.length s.toList)

end ActionRehearsal.CommandLine
