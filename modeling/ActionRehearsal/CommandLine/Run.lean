import ActionRehearsal.CommandLine.Lint
import ActionRehearsal.CommandLine.Simulate
/-!
# Running the program

`run` does what the arguments ask for. Arguments that cannot be understood end the run before any
document is read. `runIn` is what comes of a run where not every text can be written.
-/

set_option autoImplicit false

namespace ActionRehearsal.CommandLine

/-- The name of the program. -/
def programName : String := "action-rehearsal"

/-- An option in a list of options. -/
def optionLine (option : OptionForm) : String :=
  "  " ++ option.name ++ if option.takesValue then " TEXT" else ""

/-- The lines of a help page. -/
def helpLines : Option CommandName → List String
  | none => ["Usage: " ++ programName ++ " [OPTIONS] COMMAND [ARGS]...", "", "Options:"]
    ++ programOptions.map optionLine ++ ["", "Commands:"]
    ++ CommandName.all.map fun command => "  " ++ command.text
  | some command =>
    ["Usage: " ++ programName ++ " " ++ command.text ++ " [OPTIONS]", "", "Options:"]
      ++ command.options.map optionLine

/-- Does what the program is asked to do. -/
def perform [Platform] (setting : Setting) : Invocation → Outcome
  -- to name no command is a misuse, and the help page says what is missing
  | .overview => .misused (Printed.errorLines (helpLines none))
  | .help command => .done (Printed.lines (helpLines command)) false
  | .inspect action workflow versionAxis => inspect setting action workflow versionAxis
  | .lint action workflow => lint setting action workflow
  | .simulate options => simulate setting options

/-- Runs the program on its arguments. -/
def run [Platform] (world : Files.Surroundings) (settings : Settings) (arguments : List String) : Outcome :=
  match Arguments.read settings arguments with
  | .error fault => .ofUsageFault fault
  | .ok arguments => perform ⟨world, settings, ⟨arguments.debug⟩⟩ arguments.invocation

/-- Runs the program on its arguments and writes what it prints in an encoding. -/
def runIn [Platform] (encoding : Text.Encoding) (world : Files.Surroundings) (settings : Settings)
    (arguments : List String) : Outcome :=
  (run world settings arguments).writtenIn encoding

end ActionRehearsal.CommandLine
