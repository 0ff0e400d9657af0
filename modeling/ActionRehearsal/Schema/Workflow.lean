import ActionRehearsal.Schema.Action
/-!
# The shape of a workflow document

One check for each record of a workflow document: the strategy of a job, the job, and the whole.
Triggers may be one name, a list of names or a mapping.
-/

set_option autoImplicit false

namespace ActionRehearsal.Schema

open Checked

/-! ## Jobs -/

/-- The strategy of a job. -/
structure Strategy where
  matrix : Option (Table String Value)

/-- The fields of a strategy. -/
def strategyFields : List (List String) := [["matrix"]]

/-- Any value. -/
def anything (v : Value) : Checked Value := .ok v

/-- The strategy of a job. -/
def strategy : Value → Checked (Noted Strategy) :=
  recordOf "StrategyDocument" strategyFields fun entries =>
    (field entries ["matrix"] none (optional (tableOf anything))).map fun matrix => ⟨matrix⟩

/-- The machines of a job: a text, or a list of texts. What is neither has the problems of
both. -/
def machines (v : Value) : Checked Machines :=
  match (text v).inside "str", (listOf text v).inside "list[str]" with
  | .ok label, _ => .ok (.one label)
  | .error _, .ok labels => .ok (.labels labels)
  | .error p, .error q => .error (p.append q)

/-- A job document. -/
structure JobDocument where
  runsOn : Machines
  strategy : Option (Noted Strategy)
  steps : List (Noted Step)

/-- The fields of a job. -/
def jobFields : List (List String) := [["runs-on", "runs_on"], ["strategy"], ["steps"]]

/-- A job. -/
def job : Value → Checked (Noted JobDocument) :=
  recordOf "JobDocument" jobFields fun entries =>
    (both (field entries ["runs-on", "runs_on"] (.one "") machines)
      (both (field entries ["strategy"] none (optional strategy))
        (field entries ["steps"] [] steps))).map
      fun (runsOn, strategy, steps) => ⟨runsOn, strategy, steps⟩

/-! ## The workflow -/

/-- A workflow document. -/
structure WorkflowDocument where
  name : String
  triggers : Option (Table String Value)
  permissions : Option (Table String String)
  jobs : Table String (Noted JobDocument)

/-- The fields of a workflow. -/
def workflowFields : List (List String) := [["name"], ["on"], ["permissions"], ["jobs"]]

/-- The short spellings of triggers written out: a name or a list of names stands for a mapping
from each name to null. -/
def spelledTriggers : Value → Checked Value
  | .text event => .ok (.map [(.text event, .null)])
  | .list events =>
    (events.mapM displayed).map fun names =>
      Value.mapOfEntries (names.map fun name => (Scalar.text name, Value.null))
  | v => .ok v

/-- The triggers of a workflow. -/
def triggers (v : Value) : Checked (Option (Table String Value)) :=
  (spelledTriggers v).andThen (optional (tableOf anything))

/-- The jobs of a workflow, null counting as none. -/
def jobs (v : Value) : Checked (Table String (Noted JobDocument)) :=
  match v with
  | .null => .ok {}
  | v => tableOf job v

/-- A workflow. -/
def workflow : Value → Checked (Noted WorkflowDocument) :=
  recordOf "WorkflowDocument" workflowFields fun entries =>
    (both (field entries ["name"] "" textOrEmpty)
      (both (field entries ["on"] none triggers)
        (both (field entries ["permissions"] none (optional (tableOf text)))
          (field entries ["jobs"] {} jobs)))).map
      fun (name, triggers, permissions, jobs) => ⟨name, triggers, permissions, jobs⟩

end ActionRehearsal.Schema
