import ActionRehearsal.Definition.Basic
/-!
# Inputs from a calling workflow

A calling workflow supplies four values to the action and optionally a fifth. `ofMapping` picks
them from a mapping as they are; `check` accepts only mappings in which they can be used.
-/

set_option autoImplicit false

namespace ActionRehearsal

/-- The values that a calling workflow supplies. -/
structure WorkflowInput where
  githubToken : Value
  publicRepoToken : Value
  privateRepo : Value
  publicRepo : Value
  wranglerPort : Option Value

/-- Why a value is no workflow input. -/
inductive WorkflowInputFault where
  | notAMapping
  | missing (field : String)
  | notText (field : String)
  deriving DecidableEq

/-- The wording of a fault. -/
def WorkflowInputFault.message : WorkflowInputFault → String
  | .notAMapping => "Invalid workflow input"
  | .missing field => "Missing required field: " ++ field
  | .notText field => field ++ " must be a string"

namespace WorkflowInput

/-- The names of the values that must be supplied. -/
def requiredFields : List String := ["github-token", "public-repo-token", "private-repo", "public-repo"]

/-- The names of the values that may be supplied. -/
def optionalFields : List String := ["wrangler-port"]

/-- A value unless it is null. -/
def unlessNull : Option Value → Option Value
  | some .null => none
  | v => v

/-- The mapping by which steps refer to the values. -/
def toMapping (w : WorkflowInput) : Mapping :=
  [(.text "github-token", w.githubToken), (.text "public-repo-token", w.publicRepoToken),
    (.text "private-repo", w.privateRepo), (.text "public-repo", w.publicRepo)]
    ++ (match w.wranglerPort with
      | some port => [(.text "wrangler-port", port)]
      | none => [])

/-- The value of a name, or the name if it is absent. -/
def valueOf (entries : Mapping) (name : String) : Except String Value :=
  match Entries.get? entries (.text name) with
  | some v => .ok v
  | none => .error name

/-- The workflow input of a mapping, or the first name that is absent. -/
def ofMapping (entries : Mapping) : Except String WorkflowInput := do
  return {
    githubToken := ← valueOf entries "github-token"
    publicRepoToken := ← valueOf entries "public-repo-token"
    privateRepo := ← valueOf entries "private-repo"
    publicRepo := ← valueOf entries "public-repo"
    wranglerPort := unlessNull (Entries.get? entries (.text "wrangler-port")) }

/-- Whether a value is a text that is not empty. -/
def isUsable : Option Value → Bool
  | some (.text s) => s != ""
  | _ => false

/-- Whether a value is absent or a text. -/
def isTextIfGiven : Option Value → Bool
  | none => true
  | some (.text _) => true
  | some _ => false

/-- The first fault of a mapping: a required value that is absent, empty or no text, or else an
optional one that is no text. -/
def firstFault? (entries : Mapping) : Option WorkflowInputFault :=
  match requiredFields.find? fun name => !isUsable (Entries.get? entries (.text name)) with
  | some name => some (.missing name)
  | none =>
    (optionalFields.find? fun name => !isTextIfGiven (Entries.get? entries (.text name))).map .notText

/-- The workflow input of a value, if it can be used. -/
def check (v : Value) : Except WorkflowInputFault WorkflowInput :=
  match v with
  | .map entries =>
    match firstFault? entries with
    | some fault => .error fault
    | none => (ofMapping entries).mapError .missing
  | _ => .error .notAMapping

end WorkflowInput

end ActionRehearsal
