import ActionRehearsal.Table
import ActionRehearsal.Value.Basic
/-!
# Definitions

A composite action and a workflow as they are used once a document has been read: steps in order,
inputs and jobs by name in order of declaration.
-/

set_option autoImplicit false

namespace ActionRehearsal

/-- The shells that a step may name. -/
inductive Shell where
  | bash
  | powershell
  | pwsh
  | sh
  | cmd
  deriving DecidableEq

namespace Shell

/-- All shells. -/
def all : List Shell := [.bash, .powershell, .pwsh, .sh, .cmd]

/-- The name of a shell in a document. -/
def name : Shell → String
  | .bash => "bash"
  | .powershell => "powershell"
  | .pwsh => "pwsh"
  | .sh => "sh"
  | .cmd => "cmd"

/-- The names of all shells. -/
def names : List String := all.map name

/-- Whether a value is the name of a shell. -/
def isName : Value → Bool
  | .text s => names.contains s
  | _ => false

end Shell

/-- The place of a step's output among all outputs; a step without an id has the id `None`. -/
def outputKey (id : Option String) (name : String) : String :=
  "steps." ++ id.getD "None" ++ ".outputs." ++ name

/-- The start of the places of all outputs of a step. -/
def outputKeyStart (id : Option String) : String := "steps." ++ id.getD "None"

/-- A step of an action or a job. The condition is its guard, the parameters are what it passes to
the action that it uses. -/
structure Step where
  name : String := ""
  id : Option String := none
  shell : Option String := none
  run : Option String := none
  uses : Option String := none
  condition : Option String := none
  params : Option (Table String String) := none
  deriving DecidableEq

/-- The first given text of a list, if any is not empty. -/
def firstGiven : List (Option String) → Option String
  | [] => none
  | some s :: rest => if s = "" then firstGiven rest else some s
  | none :: rest => firstGiven rest

/-- What a step is called in reports: by its name, its id or the action that it uses. -/
def Step.label (step : Step) : String :=
  (firstGiven [some step.name, step.id, step.uses]).getD "<unnamed>"

/-- The script of a step, if it has one that is not empty. -/
def Step.script? (step : Step) : Option String := firstGiven [step.run]

/-- A declared input of an action. -/
structure InputSpec where
  description : String := ""
  required : Bool := false
  default : Option String := none
  deriving DecidableEq

/-- A composite action. The runner says how its steps are run. -/
structure Action where
  name : String
  description : String
  author : String
  inputs : Table String InputSpec
  runner : String
  steps : List Step
  deriving DecidableEq

/-- The machines that a job runs on: one, or a list of labels. -/
inductive Machines where
  | one (label : String)
  | labels (labels : List String)
  deriving DecidableEq

/-- A job of a workflow; the matrix maps the name of an axis to its values. -/
structure Job where
  runsOn : Machines
  matrix : Option (Table String Value)
  steps : List Step

/-- A workflow. -/
structure Workflow where
  name : String
  triggers : Table String Value
  permissions : Option (Table String String)
  jobs : Table String Job

/-- The steps of all jobs, in order. -/
def Workflow.allSteps (workflow : Workflow) : List Step :=
  workflow.jobs.entries.flatMap fun job => job.2.steps

end ActionRehearsal
