import ActionRehearsal.Guard
import ActionRehearsal.Validation.WorkflowInput
/-!
# Questions about one action

Which required inputs are missing, which step has a name or an id, and whether a step would run.
`structureProblems` looks at a raw mapping and collects everything that an action lacks.
-/

set_option autoImplicit false

namespace ActionRehearsal

namespace Action

/-- The required inputs for which no value is given, in order of declaration. -/
def missingInputs (a : Action) (supplied : Mapping) : List String :=
  (a.inputs.filter fun name input =>
    input.required && !(Entries.get? supplied (Scalar.text name)).any Value.isGiven).keys

/-- The complaint about a missing input. -/
def missingInputMessage (name : String) : String := "Missing required input: " ++ name

/-- The complaints about all missing inputs. -/
def inputProblems (a : Action) (supplied : Mapping) : List String :=
  (a.missingInputs supplied).map missingInputMessage

/-- The first step with the name. -/
def stepNamed? (a : Action) (name : String) : Option Step :=
  a.steps.find? fun step => step.name == name

/-- The first step with the id; the id may be absent. -/
def stepWithId? (a : Action) (id : Option String) : Option Step :=
  a.steps.find? fun step => step.id == id

/-- Whether the guard of the named step holds; an unknown step has none. -/
def stepRuns (a : Action) (name : String) (outputs : Table String String) : Bool :=
  guardHolds ((a.stepNamed? name).bind (·.condition)) outputs

end Action

/-! ## Raw mappings -/

/-- What the raw mapping of an action lacks. -/
inductive StructureProblem where
  | noName
  | noDescription
  | noRuns
  | notComposite
  | noInputs
  deriving DecidableEq

/-- The wording of a problem. -/
def StructureProblem.message : StructureProblem → String
  | .noName => "Missing action name"
  | .noDescription => "Missing action description"
  | .noRuns => "Missing runs configuration"
  | .notComposite => "Action must use composite runner"
  | .noInputs => "Missing inputs configuration"

/-- Whether an entry is there and counts as given. -/
def hasGiven (entries : Mapping) (name : String) : Bool :=
  (Entries.get? entries (Scalar.text name)).any Value.isGiven

/-- Whether a value says that the steps are run as a composite. -/
def isComposite : Value → Bool
  | .map entries => match Entries.get? entries (Scalar.text "using") with
    | some (.text s) => s == "composite"
    | _ => false
  | _ => false

/-- Whether an entry is there and not null. -/
def isPresent (entries : Mapping) (name : String) : Bool :=
  match Entries.get? entries (Scalar.text name) with
  | none => false
  | some .null => false
  | some _ => true

/-- Everything that the raw mapping of an action lacks. -/
def structureProblems (entries : Mapping) : List StructureProblem :=
  let runs := Entries.get? entries (Scalar.text "runs")
  let checks : List (Bool × StructureProblem) := [
    (hasGiven entries "name", .noName),
    (hasGiven entries "description", .noDescription),
    (hasGiven entries "runs", .noRuns),
    (!hasGiven entries "runs" || runs.any isComposite, .notComposite),
    (isPresent entries "inputs", .noInputs)]
  (checks.filter fun check => !check.1).map (·.2)

end ActionRehearsal
