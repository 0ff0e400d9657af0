import ActionRehearsal.Files.Path
import ActionRehearsal.Schema.Check
import ActionRehearsal.Yaml.Fault
/-!
# Why there is no definition

A `ConfigError` says why a document was not accepted, and where it came from. Reading a document may
also break down, which is no such error.
-/

set_option autoImplicit false

namespace ActionRehearsal

/-- The two kinds of definition. -/
inductive DefinitionKind where
  | action
  | workflow
  deriving DecidableEq

/-- The name of a kind of definition. -/
def DefinitionKind.name : DefinitionKind → String
  | .action => "ActionDefinition"
  | .workflow => "WorkflowDefinition"

/-- What a usable definition must have. -/
inductive Requirement where
  | actionName
  | actionDescription
  | compositeRuns
  | actionSteps
  | workflowName
  | workflowTriggers
  | workflowJobs
  deriving DecidableEq

/-- The wording of a requirement that is not met. -/
def Requirement.message : Requirement → String
  | .actionName => "Action must have a name"
  | .actionDescription => "Action must have a description"
  | .compositeRuns => "Action must use composite runs"
  | .actionSteps => "Action must have at least one step"
  | .workflowName => "Workflow must have a name"
  | .workflowTriggers => "Workflow must have triggers"
  | .workflowJobs => "Workflow must have at least one job"

/-- Why a file that exists has no text. -/
inductive FileFault where
  | system (fault : Files.SystemFault) (path : String)
  | notUtf8 (fault : Text.Utf8Fault)
  deriving DecidableEq

/-- The wording of a file fault. -/
def FileFault.message : FileFault → String
  | .system fault path => fault.message path
  | .notUtf8 fault => fault.message

/-- Why a document was not accepted. -/
inductive ConfigCause where
  | malformed (cause : Yaml.Malformed)
  | notAMapping
  | invalid (problem : Schema.Problem)
  | unmet (requirement : Requirement)
  | fileNotFound
  | unreadable (fault : FileFault)
  | otherKind (held wanted : DefinitionKind)
  | reported (message : String)
  deriving DecidableEq

/-- The name of a place in a document. -/
def placeName (place : List String) : String :=
  let name := ".".intercalate place
  if name = "" then "<root>" else name

/-- The wording of a cause. -/
def ConfigCause.message : ConfigCause → String
  | .malformed cause => "Malformed YAML: " ++ cause.message
  | .notAMapping => "Document must be a mapping at the top level"
  | .invalid problem =>
    "Invalid document at " ++ placeName problem.place ++ ": " ++ problem.cause.message
  | .unmet requirement => requirement.message
  | .fileNotFound => "File not found"
  | .unreadable fault => "Could not read file: " ++ fault.message
  | .otherKind held wanted => "Already parsed as " ++ held.name ++ ", not " ++ wanted.name
  | .reported message => message

/-- An action or workflow document that could not be read or accepted, with the path that it came
from, if it is known. -/
structure ConfigError where
  cause : ConfigCause
  path : Option String
  deriving DecidableEq

namespace ConfigError

/-- What is wrong, without the path. -/
def message (e : ConfigError) : String := e.cause.message

/-- The path, if one is given that is not empty. -/
def givenPath (e : ConfigError) : Option String := firstGiven [e.path]

/-- The error as text, with the path if there is one. -/
def text (e : ConfigError) : String :=
  match e.givenPath with
  | some path => e.message ++ " (" ++ path ++ ")"
  | none => e.message

end ConfigError

/-- Why a text has no definition. -/
inductive ReadFault where
  | refused (e : ConfigError)
  | breakdown (fault : Yaml.Breakdown)
  deriving DecidableEq

end ActionRehearsal
