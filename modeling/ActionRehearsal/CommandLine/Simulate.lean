import ActionRehearsal.CommandLine.Arguments
import ActionRehearsal.CommandLine.Outcome
import ActionRehearsal.Rehearsal.Run
import ActionRehearsal.Text.Blank
import ActionRehearsal.Validation.Action
/-!
# Rehearsing from the command line

The inputs are the defaults of the action and then the given pairs. If no required input is
missing, the action is rehearsed with stand-ins for its commands: the failing patterns first, then
the succeeding ones, and last the empty pattern, if every other command is to succeed. The table
of results has a row for each step that was reached.
-/

set_option autoImplicit false

namespace ActionRehearsal.CommandLine

open ActionRehearsal.Text

/-! ## Inputs -/

/-- The trimmed name and the value of a pair: what comes before the first equals sign, which must
not be empty, and what comes after it. -/
def pair? (argument : String) : Option (String × String) :=
  match nameAndValue argument with
  | (_, none) => none
  | (name, some value) => if name = "" then none else some (trimmed name, value)

/-- The pairs of arguments, of which later ones win. -/
def inputPairs : List String → Except UsageFault (List (String × String))
  | [] => .ok []
  | argument :: rest => match pair? argument with
    | none => .error (.notAPair argument)
    | some pair => (inputPairs rest).map (pair :: ·)

/-- The inputs that have a default, with it. -/
def defaultInputs (a : Action) : Table String String :=
  a.inputs.filterMapValues (·.default)

/-- The inputs of a rehearsal: the defaults, replaced by the given pairs. -/
def effectiveInputs (a : Action) (pairs : List (String × String)) : Table String String :=
  (defaultInputs a).update pairs

/-- Inputs as the values that they are checked as. -/
def asValues (inputs : Table String String) : Mapping :=
  inputs.entries.map fun input => (.text input.1, .text input.2)

/-- The complaint about missing inputs. -/
def missingError (problems : List String) : Printed :=
  Console.error "Missing inputs" "The action declares required inputs that were not supplied."
    problems "Pass them with --input KEY=VALUE"

/-! ## Stand-ins -/

/-- The handler of a pattern whose commands fail. -/
def failing (pattern : String) : Handler :=
  .finish (.error (.aborted (.text ("mocked failure: " ++ pattern))))

/-- The handler of a pattern whose commands succeed. -/
def succeeding (pattern : String) : Handler :=
  .note ("mock hit: " ++ pattern) (.finish (.ok (.bool true)))

/-- The mocks in which each pattern of a list is registered in turn. -/
def registerAll (handler : String → Handler) (patterns : List String) (m : Mocks) : Mocks :=
  patterns.foldl (fun m pattern => m.register pattern (handler pattern)) m

/-- The stand-ins for all commands of a rehearsal. -/
def standIns (options : SimulateOptions) : Mocks :=
  -- failing patterns are registered first, so they win over all others
  let m := registerAll succeeding options.mocks (registerAll failing options.fails {})
  if options.permissive then m.register "" (succeeding "<any>") else m

/-! ## Results -/

/-- What is said of a step in the table of results. -/
def statusText : Option StepResult → String
  | none => "skipped"
  | some (.passed _) => "success"
  | some (.failed _) => "failed"

/-- The rows of the table of results, numbered from `first` on. -/
def rows (first : Nat) : List Entry → List (String × String)
  | [] => []
  | (step, result) :: rest =>
    (toString first ++ ". " ++ step.label, statusText result) :: rows (first + 1) rest

/-- The table of results. -/
def summary (entries : List Entry) : Table String String := Table.ofList (rows 1 entries)

/-- Whether some step failed. -/
def hasFailure (entries : List Entry) : Bool :=
  entries.any fun entry => entry.2.any StepResult.isFailure

/-- What is printed of a step. -/
def entryReport (console : Console) : Entry → Printed
  | (step, none) => Console.skipped step.label
  | (step, some (.passed outputs)) =>
    Console.step step.label ++ Console.success (outputs.getD {}).entries
  | (step, some (.failed error)) => Console.step step.label ++ console.failure step.label error

/-- What is printed of a rehearsal. -/
def rehearsalReport (console : Console) (entries : List Entry) (notes : List String) : Printed :=
  Printed.concat (notes.map console.note)
    ++ Printed.concat (entries.map (entryReport console))
    ++ Console.results (summary entries).entries

/-- The entries of a rehearsal with inputs, and the mocks after it. -/
def rehearsed (options : SimulateOptions) (a : Action) (inputs : Table String String) :
    List Entry × Mocks :=
  rehearse inputs.entries a.steps (standIns options)

/-- Rehearses an action. -/
def simulateAction (console : Console) (options : SimulateOptions) (a : Action) : Outcome :=
  match inputPairs options.inputs with
  | .error fault => .ofUsageFault fault
  | .ok pairs =>
    let inputs := effectiveInputs a pairs
    let problems := a.inputProblems (asValues inputs)
    if problems.isEmpty then
      let (entries, m) := rehearsed options a inputs
      .done (rehearsalReport console entries m.notes) (hasFailure entries)
    else .done (missingError problems) true

/-- Rehearses the action at a path. -/
def simulate [Platform] (setting : Setting) (options : SimulateOptions) : Outcome :=
  let action := (Library.empty none).action setting.world setting.settings options.action
  match action.1 with
  | .error fault => .ofLibraryFault setting.console fault
  | .ok action => simulateAction setting.console options action.content

end ActionRehearsal.CommandLine
