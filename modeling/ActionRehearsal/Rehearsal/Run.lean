import ActionRehearsal.Guard
import ActionRehearsal.Placeholder
import ActionRehearsal.Rehearsal.Dialect
import ActionRehearsal.Script
/-!
# Rehearsals

A rehearsal goes through the steps of an action without running anything. A step whose guard does
not hold is skipped; of any other step the commands are taken one by one, with the inputs put in,
until one fails. The rehearsal ends after the first failed step.
-/

set_option autoImplicit false

namespace ActionRehearsal

open ActionRehearsal.Text

/-- What became of a step: it passed, with the outputs recorded under its id if it has a script,
or it failed. -/
inductive StepResult where
  | passed (outputs : Option (Table String String))
  | failed (error : String)
  deriving DecidableEq

/-- Whether a step failed. -/
def StepResult.isFailure : StepResult → Bool
  | .passed _ => false
  | .failed _ => true

namespace Mocks

/-- The recorded outputs whose places start as those of the step do. -/
def outputsOf (m : Mocks) (id : Option String) : Table String String :=
  m.outputs.filter fun key _ => (outputKeyStart id).toList.isPrefixOf key.toList

end Mocks

/-- Takes the trimmed lines of a script in order, up to the first that fails. Empty lines and
comments are passed over. -/
def takeLines {σ ε : Type} (take : String → σ → Except ε Unit × σ) :
    List (List Char) → σ → Except ε Unit × σ
  | [], s => (.ok (), s)
  | line :: rest, s =>
    match trim line with
    | [] => takeLines take rest s
    | '#' :: _ => takeLines take rest s
    | command =>
      match take (String.ofList command) s with
      | (.ok (), s) => takeLines take rest s
      | (.error fault, s) => (.error fault, s)

/-- Rehearses one step, given what executing a command does. -/
def rehearseStepWith (execute : Executor) (inputs : List (String × String)) (step : Step)
    (m : Mocks) : StepResult × Mocks :=
  match step.script? with
  | none => (.passed none, m)
  | some script =>
    let lines := splitAtNewlines (interpolate inputs script).toList
    match takeLines (Mocks.handle execute (Dialect.ofShell step.shell) step.id) lines m with
    | (.ok (), m) => (.passed (some (m.outputsOf step.id)), m)
    | (.error fault, m) => (.failed fault.report, m)

/-- Rehearses one step. The step and each of its commands take a place for nested calls. -/
def rehearseStep (places : Nat) : List (String × String) → Step → Mocks → StepResult × Mocks :=
  rehearseStepWith (Mocks.dispatch (places - 2))

/-- A step with its result; a skipped step has none. -/
abbrev Entry : Type := Step × Option StepResult

/-- Rehearses steps in order, with the places left for each of them. -/
def rehearseSteps (places : Nat) (inputs : List (String × String)) :
    List Step → Mocks → List Entry × Mocks
  | [], m => ([], m)
  | step :: rest, m =>
    if guardHolds step.condition m.outputs then
      match rehearseStep places inputs step m with
      | (.failed error, m) => ([(step, some (.failed error))], m)
      | (.passed outputs, m) =>
        let (entries, m) := rehearseSteps places inputs rest m
        ((step, some (.passed outputs)) :: entries, m)
    else
      let (entries, m) := rehearseSteps places inputs rest m
      ((step, none) :: entries, m)

/-- Rehearses the steps of an action. -/
def rehearse (inputs : List (String × String)) (steps : List Step) (m : Mocks) :
    List Entry × Mocks :=
  rehearseSteps (Mocks.allPlaces - 1) inputs steps m

end ActionRehearsal
