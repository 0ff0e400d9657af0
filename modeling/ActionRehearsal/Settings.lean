import ActionRehearsal.Table
/-!
# Settings

Where the documents are looked for and which part of a workflow is the test matrix. Each setting
has a default, which a variable of the environment may replace.
-/

set_option autoImplicit false

namespace ActionRehearsal

/-- The settings. -/
structure Settings where
  actionPath : String := "action.yml"
  workflowPath : String := ".github/workflows/test.yml"
  matrixJob : String := "test"
  versionAxis : String := "python-version"
  deriving DecidableEq

/-- The settings in an environment. -/
def Settings.ofEnvironment (environment : Table String String) : Settings :=
  let value (name : String) (default : String) : String :=
    (environment.get? ("ACTIONCHECK_" ++ name)).getD default
  let usual : Settings := {}
  { actionPath := value "ACTION_PATH" usual.actionPath
    workflowPath := value "WORKFLOW_PATH" usual.workflowPath
    matrixJob := value "MATRIX_JOB" usual.matrixJob
    versionAxis := value "VERSION_AXIS" usual.versionAxis }

/-- The axis of the operating systems in a test matrix. -/
def osAxis : String := "os"

end ActionRehearsal
