import ActionRehearsal.Schema.Check
/-!
# The shape of an action document

One check for each record of an action document: its inputs, its steps, how it runs, and the
whole. Texts may be given as numbers or booleans where that is a common slip; entries with other
names are allowed everywhere.
-/

set_option autoImplicit false

namespace ActionRehearsal.Schema

open Checked

/-! ## Inputs -/

/-- The fields of an input. -/
def inputFields : List (List String) := [["description"], ["required"], ["default"]]

/-- A declared input. -/
def input : Value → Checked (Noted InputSpec) :=
  recordOf "InputDocument" inputFields fun entries =>
    (both (field entries ["description"] "" looseText)
      (both (field entries ["required"] false flag)
        (field entries ["default"] none fun v => (stringified v).andThen (optional text)))).map
      fun (description, required, default) => ⟨description, required, default⟩

/-! ## Steps -/

/-- The fields of a step; a guard and parameters have a second name. -/
def stepFields : List (List String) :=
  [["name"], ["id"], ["shell"], ["run"], ["uses"], ["if", "condition"], ["with", "params"]]

/-- A text, number, boolean or null. -/
def looseOptionalText (v : Value) : Checked (Option String) :=
  (stringified v).andThen (optional text)

/-- A known shell or null. -/
def shell (v : Value) : Checked (Option String) :=
  (optional text v).andThen fun name => match name with
    | none => .ok none
    | some name =>
      if Shell.names.contains name then .ok (some name) else refused (.unsupportedShell name)

/-- A parameter with its key and value as text. -/
def textParam (entry : Scalar × Value) : Checked (Scalar × Value) :=
  (displayed (.scalar entry.1)).andThen fun key =>
    (stringified entry.2).map fun v => (Scalar.text key, v)

/-- Parameters with all keys and values as text; what is no mapping stays as it is. -/
def textParams : Value → Checked Value
  | .map entries => (entries.mapM textParam).map Value.mapOfEntries
  | v => .ok v

/-- The parameters of a step. -/
def params (v : Value) : Checked (Option (Table String String)) :=
  (textParams v).andThen (optional (tableOf text))

/-- A step. -/
def step : Value → Checked (Noted Step) :=
  recordOf "StepDocument" stepFields fun entries =>
    (both (field entries ["name"] "" looseText)
      (both (field entries ["id"] none looseOptionalText)
        (both (field entries ["shell"] none shell)
          (both (field entries ["run"] none looseOptionalText)
            (both (field entries ["uses"] none (optional text))
              (both (field entries ["if", "condition"] none looseOptionalText)
                (field entries ["with", "params"] none params))))))).map
      fun (name, id, shell, run, uses, condition, params) =>
        ⟨name, id, shell, run, uses, condition, params⟩

/-- A list of steps, null counting as none. -/
def steps (v : Value) : Checked (List (Noted Step)) :=
  match v with
  | .null => .ok []
  | v => listOf step v

/-! ## The action -/

/-- How an action runs. -/
structure Runs where
  runner : String
  steps : List (Noted Step)

/-- The fields that say how an action runs. -/
def runsFields : List (List String) := [["using"], ["steps"]]

/-- How an action runs. -/
def runs : Value → Checked (Noted Runs) :=
  recordOf "RunsDocument" runsFields fun entries =>
    (both (field entries ["using"] "" text) (field entries ["steps"] [] steps)).map
      fun (runner, steps) => ⟨runner, steps⟩

/-- An action document. -/
structure ActionDocument where
  name : String
  description : String
  author : String
  inputs : Table String (Noted InputSpec)
  runs : Option (Noted Runs)

/-- The fields of an action. -/
def actionFields : List (List String) :=
  [["name"], ["description"], ["author"], ["inputs"], ["runs"]]

/-- A text, number or boolean, null counting as the empty text. -/
def textOrEmpty (v : Value) : Checked String :=
  match v with
  | .null => .ok ""
  | v => looseText v

/-- An input without a body, with an empty one. -/
def withBody : Value → Value
  | .null => .map []
  | v => v

/-- Inputs of which some have no body, with an empty body for each of them. -/
def withBodies : Value → Value
  | .map entries => .map (entries.map fun entry => (entry.1, withBody entry.2))
  | v => v

/-- The inputs of an action, null counting as none. -/
def inputs (v : Value) : Checked (Table String (Noted InputSpec)) :=
  match v with
  | .null => .ok {}
  | v => tableOf input (withBodies v)

/-- An action. -/
def action : Value → Checked (Noted ActionDocument) :=
  recordOf "ActionDocument" actionFields fun entries =>
    (both (field entries ["name"] "" textOrEmpty)
      (both (field entries ["description"] "" textOrEmpty)
        (both (field entries ["author"] "" textOrEmpty)
          (both (field entries ["inputs"] {} inputs)
            (field entries ["runs"] none (optional runs)))))).map
      fun (name, description, author, inputs, runs) => ⟨name, description, author, inputs, runs⟩

end ActionRehearsal.Schema
