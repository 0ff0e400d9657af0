import ActionRehearsal.Analysis.Report
import ActionRehearsal.CommandLine.Inspect
/-!
# Checking for literal tokens

The scripts of the action are checked against all families of rules, its text is scanned for
literal tokens, and so are the scripts of the workflow, if one is named. A literal token anywhere
in these is an error.
-/

set_option autoImplicit false

namespace ActionRehearsal.CommandLine

open ActionRehearsal.Analysis

/-- The answers of the two reports on an action. -/
def checks (secrets : SecretsReport) (conventions : ConventionsReport) : Printed :=
  Console.check "hardcoded secrets" secrets.hasLiteralTokens
    ++ Console.check "secure token passing" secrets.passesTokens
    ++ Console.check "cleans up resources" secrets.cleansUp
    ++ Console.check "checks for wrangler.toml" conventions.testsConfigFile
    ++ Console.check "skips without wrangler.toml" conventions.skipsIfMissing
    ++ Console.check "creates docs directory" conventions.createsDocuments

/-- The rules about literal tokens that the text of an action breaks. -/
def scanItems (names : List String) : Printed :=
  Printed.concat (names.map fun name => textItem "token literal in file" name)

/-- The report on an action with its text. -/
def lintReport (a : Action) (text : String) : Printed :=
  Console.header ("LINT: " ++ a.name)
    ++ checks (secretsReport a.steps) (conventionsReport a.steps)
    ++ scanItems (scanText text)

/-- Whether the scripts or the text of an action hold a literal token. -/
def leaksInAction (a : Action) (text : String) : Bool :=
  (secretsReport a.steps).hasLiteralTokens || !(scanText text).isEmpty

/-- Whether the scripts of a workflow hold a literal token. -/
def leaksInWorkflow (w : Workflow) : Bool := (secretsReport w.allSteps).hasLiteralTokens

/-- The error about literal tokens, if there are any. -/
def leakError (leaked : Bool) : Printed :=
  if leaked then
    Console.error "Hardcoded secrets found" "A step script contains a literal GitHub token." []
      "Pass tokens through inputs or $\x7b\x7b secrets.* \x7d\x7d instead."
  else Printed.nothing

/-- Checks an action with its text, and a workflow. -/
def lintDefinitions (setting : Setting) (a : Action) (text : String) (workflow : Option Workflow) :
    Outcome :=
  let leaked := leaksInAction a text
  match workflow with
  | none => .done (lintReport a text ++ leakError leaked) leaked
  | some w =>
    let printed := lintReport a text
      ++ Console.check ("hardcoded secrets in " ++ w.name) (leaksInWorkflow w)
    let leaked := leaked || leaksInWorkflow w
    withMatrix setting.settings setting.settings.versionAxis w printed leaked (leakError leaked)

/-- The text of the action document, which is read once more. -/
def actionText (setting : Setting) (path : Option String) : Except LibraryFault String :=
  match setting.world.locate none path setting.settings.actionPath with
  | .error fault => .error (.path fault)
  | .ok place => (setting.world.files.textAt place).mapError (.ofText place)

/-- Checks the documents at two paths. -/
def lint [Platform] (setting : Setting) (actionPath workflowPath : Option String) : Outcome :=
  let (action, library) := (Library.empty none).action setting.world setting.settings actionPath
  let workflow : Except LibraryFault (Option Workflow) := match firstGiven [workflowPath] with
    | none => .ok none
    | some path => (library.workflow setting.world setting.settings (some path)).1.map (some ·.content)
  match action, workflow, actionText setting actionPath with
  | .error fault, _, _ => .ofLibraryFault setting.console fault
  | .ok _, .error fault, _ => .ofLibraryFault setting.console fault
  | .ok _, .ok _, .error fault => .ofLibraryFault setting.console fault
  | .ok action, .ok workflow, .ok text =>
    lintDefinitions setting action.content text workflow

end ActionRehearsal.CommandLine
