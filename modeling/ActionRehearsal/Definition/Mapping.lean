import ActionRehearsal.Definition.Basic
/-!
# Definitions as mappings

`Action.toMapping` and `Workflow.toMapping` spell out a definition as the mapping of a document:
every field stands under its name, also where it has its default, and null stands for what is
absent.
-/

set_option autoImplicit false

namespace ActionRehearsal

/-- A text, or null. -/
def Value.ofText? : Option String → Value
  | some s => .text s
  | none => .null

/-- A table with what each value becomes. -/
def Table.toValue {β : Type} (value : β → Value) (t : Table String β) : Value :=
  .map (t.entries.map fun entry => (Scalar.text entry.1, value entry.2))

/-- A table, or null. -/
def Table.toValue? {β : Type} (value : β → Value) : Option (Table String β) → Value
  | some t => t.toValue value
  | none => .null

/-- The mapping of fields under their names. -/
def Mapping.ofFields (fields : List (String × Value)) : Mapping :=
  fields.map fun field => (Scalar.text field.1, field.2)

/-- The mapping of a step. -/
def Step.toMapping (step : Step) : Mapping := Mapping.ofFields [
  ("name", .text step.name), ("id", .ofText? step.id), ("shell", .ofText? step.shell),
  ("run", .ofText? step.run), ("uses", .ofText? step.uses), ("if", .ofText? step.condition),
  ("with", Table.toValue? Value.text step.params)]

/-- The list of the mappings of steps. -/
def stepsValue (steps : List Step) : Value := .list (steps.map fun step => .map step.toMapping)

/-- The mapping of an input. -/
def InputSpec.toMapping (input : InputSpec) : Mapping := Mapping.ofFields [
  ("description", .text input.description), ("required", .bool input.required),
  ("default", .ofText? input.default)]

/-- The mapping of an action. -/
def Action.toMapping (a : Action) : Mapping := Mapping.ofFields [
  ("name", .text a.name), ("description", .text a.description), ("author", .text a.author),
  ("inputs", a.inputs.toValue fun input => .map input.toMapping),
  ("runs", .map (Mapping.ofFields [("using", .text a.runner), ("steps", stepsValue a.steps)]))]

/-- The machines of a job. -/
def Machines.toValue : Machines → Value
  | .one label => .text label
  | .labels items => .list (items.map .text)

/-- The mapping of a job. -/
def Job.toMapping (job : Job) : Mapping := Mapping.ofFields [
  ("runs-on", job.runsOn.toValue),
  ("strategy", .map (Mapping.ofFields [("matrix", Table.toValue? id job.matrix)])),
  ("steps", stepsValue job.steps)]

/-- The mapping of a workflow. -/
def Workflow.toMapping (w : Workflow) : Mapping := Mapping.ofFields [
  ("name", .text w.name), ("on", w.triggers.toValue id),
  ("permissions", Table.toValue? Value.text w.permissions),
  ("jobs", w.jobs.toValue fun job => .map job.toMapping)]

end ActionRehearsal
