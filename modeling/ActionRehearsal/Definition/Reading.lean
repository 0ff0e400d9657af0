import ActionRehearsal.Definition.Fault
import ActionRehearsal.Schema.Workflow
import ActionRehearsal.Yaml.Reading
/-!
# Reading definitions

From a text to an action or a workflow: the text is loaded, the shape of the document is checked,
and a definition is built from it. A strict reading also demands what a usable definition must
have; a lenient one does not. `Action.ofText` and `Workflow.ofText` do all of it;
`Action.ofMapping` and `Workflow.ofMapping` start from the loaded mapping.
-/

set_option autoImplicit false

namespace ActionRehearsal

open ActionRehearsal.Schema

/-! ## Loading -/

/-- The top-level mapping of a text. -/
def mappingOfText [Platform] (source : Option String) (text : String) : Except ReadFault Mapping :=
  match Yaml.valueOfText text with
  | .ok (.map entries) => .ok entries
  | .ok _ => .error (.refused ⟨.notAMapping, source⟩)
  | .error (.malformed cause) => .error (.refused ⟨.malformed cause, source⟩)
  | .error (.breakdown fault) => .error (.breakdown fault)

/-- What a check reads, or its first problem as an error. -/
def accepted {α : Type} (source : Option String) (check : Checked α) : Except ConfigError α :=
  check.mapError fun problems => ⟨.invalid problems.first, source⟩

/-- The first requirement of a list that is not met, as an error. -/
def demand (source : Option String) : List (Bool × Requirement) → Except ConfigError Unit
  | [] => .ok ()
  | (met, requirement) :: rest =>
    if met then demand source rest else .error ⟨.unmet requirement, source⟩

/-! ## Actions -/

/-- The runner of an action that a rehearsal understands. -/
def compositeRunner : String := "composite"

/-- What a usable action has: a name, a description, composite runs and a step. -/
def actionRequirements (doc : ActionDocument) : List (Bool × Requirement) :=
  let runs := doc.runs.map (·.content)
  [(doc.name != "", .actionName),
    (doc.description != "", .actionDescription),
    (runs.any fun runs => runs.runner == compositeRunner, .compositeRuns),
    (runs.any fun runs => !runs.steps.isEmpty, .actionSteps)]

/-- Checks that an action document can be used. -/
def checkAction (source : Option String) (doc : ActionDocument) : Except ConfigError Unit :=
  demand source (actionRequirements doc)

/-- The action that a document describes. Without runs it has no steps. -/
def Action.ofDocument (doc : ActionDocument) : Action where
  name := doc.name
  description := doc.description
  author := doc.author
  inputs := doc.inputs.mapValues (·.content)
  runner := match doc.runs with
    | some runs => runs.content.runner
    | none => ""
  steps := match doc.runs with
    | some runs => runs.content.steps.map (·.content)
    | none => []

/-- The action of a loaded mapping. -/
def Action.ofMapping (source : Option String) (strict : Bool) (entries : Mapping) :
    Except ConfigError Action := do
  let doc ← accepted source (action (.map entries))
  if strict then checkAction source doc.content
  return Action.ofDocument doc.content

/-- The action of a text. -/
def Action.ofText [Platform] (source : Option String) (strict : Bool) (text : String) :
    Except ReadFault Action := do
  let mapping ← mappingOfText source text
  (Action.ofMapping source strict mapping).mapError .refused

/-! ## Workflows -/

/-- The key of the triggers, and the boolean that an unquoted `on` is loaded as. -/
def triggersKey : Scalar := .text "on"

/-- The mapping in which the triggers have their proper key: if they stand only under the boolean
true, they move to that key at the end. -/
def withTriggersKey (entries : Mapping) : Mapping :=
  match Entries.get? entries (.bool true) with
  | none => entries
  | some v =>
    if Entries.has entries triggersKey then entries
    else Entries.set (Entries.erase entries (.bool true)) triggersKey v

/-- What a usable workflow has: a name, triggers and a job. -/
def workflowRequirements (doc : WorkflowDocument) : List (Bool × Requirement) :=
  [(doc.name != "", .workflowName),
    (doc.triggers.any fun triggers => !triggers.isEmpty, .workflowTriggers),
    (!doc.jobs.isEmpty, .workflowJobs)]

/-- Checks that a workflow document can be used. -/
def checkWorkflow (source : Option String) (doc : WorkflowDocument) : Except ConfigError Unit :=
  demand source (workflowRequirements doc)

/-- The job that a document describes. -/
def Job.ofDocument (doc : JobDocument) : Job where
  runsOn := doc.runsOn
  matrix := doc.strategy.bind fun strategy => strategy.content.matrix
  steps := doc.steps.map (·.content)

/-- The workflow that a document describes. -/
def Workflow.ofDocument (doc : WorkflowDocument) : Workflow where
  name := doc.name
  triggers := doc.triggers.getD {}
  permissions := doc.permissions
  jobs := doc.jobs.mapValues fun job => Job.ofDocument job.content

/-- The workflow of a loaded mapping. -/
def Workflow.ofMapping (source : Option String) (strict : Bool) (entries : Mapping) :
    Except ConfigError Workflow := do
  let doc ← accepted source (workflow (.map (withTriggersKey entries)))
  if strict then checkWorkflow source doc.content
  return Workflow.ofDocument doc.content

/-- The workflow of a text. -/
def Workflow.ofText [Platform] (source : Option String) (strict : Bool) (text : String) :
    Except ReadFault Workflow := do
  let mapping ← mappingOfText source text
  (Workflow.ofMapping source strict mapping).mapError .refused

end ActionRehearsal
