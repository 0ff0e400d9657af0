import ActionRehearsal.CommandLine.Outcome
import ActionRehearsal.Definition.Mapping
/-!
# Inspecting an action and its workflow

Both documents are read, and their structure is printed: names, inputs, steps, triggers and jobs,
and last the size of the test matrix.
-/

set_option autoImplicit false

namespace ActionRehearsal.CommandLine

/-- What is shown for something that is not given. -/
def notGiven : String := "-"

/-- An item with a text as its value. -/
def textItem (label value : String) : Printed := Console.item label (.text value)

/-- What is shown of a declared input. -/
def inputSummary (spec : InputSpec) : String :=
  if spec.required then "required"
  else "optional, default=" ++ match spec.default with
    | some default => Text.quoted default
    | none => "None"

/-- The structure of an action. -/
def actionReport (a : Action) : Printed :=
  Console.header "ACTION"
    ++ textItem "name" a.name
    ++ textItem "author" ((firstGiven [some a.author]).getD notGiven)
    ++ Printed.concat (a.inputs.entries.map fun input =>
      textItem ("input " ++ input.1) (inputSummary input.2))
    ++ Printed.concat (a.steps.map fun step =>
      textItem ("step " ++ step.label) ((firstGiven [step.shell, step.uses]).getD notGiven))

/-- What is shown of a job. -/
def jobSummary (job : Job) : String :=
  toString job.steps.length ++ " step(s) on " ++ job.runsOn.toValue.display

/-- The structure of a workflow. -/
def workflowReport (w : Workflow) : Printed :=
  Console.header "WORKFLOW"
    ++ textItem "name" w.name
    ++ textItem "triggers" (", ".intercalate w.triggers.keys)
    ++ Printed.concat (w.jobs.entries.map fun job => textItem ("job " ++ job.1) (jobSummary job.2))

/-- The number of combinations in a test matrix. -/
def matrixItem (report : Analysis.MatrixReport) : Printed :=
  Console.item "matrix combinations" (.int report.combinations)

/-- Prints the size of the test matrix of a workflow after what was printed before. -/
def withMatrix (settings : Settings) (versionAxis : String) (w : Workflow) (printed : Printed)
    (failed : Bool) (finish : Printed) : Outcome :=
  match Analysis.matrixReport w.jobs settings.matrixJob osAxis versionAxis with
  | .ok report => .done (printed ++ matrixItem report ++ finish) failed
  | .error fault => .cut printed (.noItems fault)

/-- Inspects the documents at two paths. -/
def inspect [Platform] (setting : Setting) (actionPath workflowPath : Option String) (versionAxis : String) :
    Outcome :=
  let (action, library) := (Library.empty none).action setting.world setting.settings actionPath
  match action with
  | .error fault => .ofLibraryFault setting.console fault
  | .ok action =>
    match (library.workflow setting.world setting.settings workflowPath).1 with
    | .error fault => .ofLibraryFault setting.console fault
    | .ok workflow =>
      withMatrix setting.settings versionAxis workflow.content
        (actionReport action.content ++ workflowReport workflow.content) false Printed.nothing

end ActionRehearsal.CommandLine
