import ActionRehearsal.Analysis.Rule
import ActionRehearsal.Definition.Basic
/-!
# Reports on scripts

Two reports on the scripts of a list of steps. Each flag of a report is set as soon as one script
has a pattern of the flag's rules.
-/

set_option autoImplicit false

namespace ActionRehearsal.Analysis

/-- How scripts treat tokens and what they leave behind. -/
structure SecretsReport where
  hasLiteralTokens : Bool
  passesTokens : Bool
  cleansUp : Bool
  deriving DecidableEq

/-- Which conventions scripts follow. -/
structure ConventionsReport where
  testsConfigFile : Bool
  skipsIfMissing : Bool
  createsDocuments : Bool
  deriving DecidableEq

/-- The scripts of steps. -/
def scripts (steps : List Step) : List (List Char) :=
  steps.filterMap fun step => step.script?.map String.toList

/-- Whether some script of the steps has a pattern of the rules. -/
def someScriptHits (rules : List Rule) (steps : List Step) : Bool :=
  (scripts steps).any (anyHits rules)

/-- The report on tokens. -/
def secretsReport (steps : List Step) : SecretsReport where
  hasLiteralTokens := someScriptHits literalTokens steps
  passesTokens := someScriptHits tokenPassing steps
  cleansUp := someScriptHits cleanup steps

/-- The report on conventions. -/
def conventionsReport (steps : List Step) : ConventionsReport where
  testsConfigFile := someScriptHits configFileTests steps
  skipsIfMissing := someScriptHits skipMessages steps
  createsDocuments := someScriptHits documentFolders steps

end ActionRehearsal.Analysis
