import ActionRehearsal.Definition.Reading
import ActionRehearsal.Files.System
import ActionRehearsal.Settings
/-!
# Libraries of definitions

A `Library` reads definitions from files and keeps them by place. A place that is held is not read
again: a request of the same kind gets what was read first, and a request of the other kind is
refused. A request that fails changes nothing. Every definition that is read gets a serial number
of its own, so that two answers with one number are one and the same definition.
-/

set_option autoImplicit false

namespace ActionRehearsal

open ActionRehearsal.Files

/-- A definition of either kind. -/
inductive Definition where
  | action (a : Action)
  | workflow (w : Workflow)

/-- The kind of a definition. -/
def Definition.kind : Definition → DefinitionKind
  | .action _ => .action
  | .workflow _ => .workflow

/-- Something that was read, with its serial number. -/
structure Numbered (α : Type) where
  serial : Nat
  content : α

/-- The definitions that are held, by the text of their place. -/
structure Library where
  root : Option String := none
  held : Table String (Numbered Definition) := {}
  nextSerial : Nat := 0

/-- Why a library gives no definition: the path leads nowhere, looking at the place that it leads to
fails, or what is there has none. -/
inductive LibraryFault where
  | path (fault : PathFault)
  | hidden (fault : SystemFault) (place : Place)
  | read (fault : ReadFault)
  deriving DecidableEq

/-- Why a library gives no definition if a place has no text. -/
def LibraryFault.ofText (place : Place) : TextFault → LibraryFault
  | .hidden fault => .hidden fault place
  | .refused e => .read (.refused e)

/-- What a request for a definition gives, with the library after it. -/
abbrev Request (α : Type) : Type := Except LibraryFault (Numbered α) × Library

namespace Library

/-- The library that holds nothing. -/
def empty (root : Option String) : Library := { root }

/-- The number of definitions that are held. -/
def size (lib : Library) : Nat := lib.held.size

/-- The library after letting go of all definitions. -/
def clear (lib : Library) : Library := { lib with held := {} }

/-- The library that also holds a definition that was just read. -/
def hold (lib : Library) (key : String) (definition : Definition) : Library where
  root := lib.root
  held := lib.held.set key ⟨lib.nextSerial, definition⟩
  nextSerial := lib.nextSerial + 1

/-- One kind of definition: how it is recognised among all, and how it is read. -/
structure Reader (α : Type) where
  kind : DefinitionKind
  wrap : α → Definition
  unwrap? : Definition → Option α
  ofText : Option String → String → Except ReadFault α

/-- The reader of actions. -/
def actions [Platform] : Reader Action where
  kind := .action
  wrap := .action
  unwrap?
    | .action a => some a
    | .workflow _ => none
  ofText source text := Action.ofText source true text

/-- The reader of workflows. -/
def workflows [Platform] : Reader Workflow where
  kind := .workflow
  wrap := .workflow
  unwrap?
    | .action _ => none
    | .workflow w => some w
  ofText source text := Workflow.ofText source true text

/-- The definition in the file at a place. -/
def readAt {α : Type} (files : FileSystem) (reader : Reader α) (place : Place) :
    Except LibraryFault α :=
  match files.textAt place with
  | .ok text => (reader.ofText (some place.text) text).mapError .read
  | .error fault => .error (.ofText place fault)

/-- The definition at a place: the one that is held, or else the one that is read there. -/
def requestAt {α : Type} (lib : Library) (files : FileSystem) (reader : Reader α) (place : Place) :
    Request α :=
  match lib.held.get? place.text with
  | some held => match reader.unwrap? held.content with
    | some content => (.ok ⟨held.serial, content⟩, lib)
    | none =>
      let cause := ConfigCause.otherKind held.content.kind reader.kind
      (.error (.read (.refused ⟨cause, some place.text⟩)), lib)
  | none => match readAt files reader place with
    | .ok content =>
      (.ok ⟨lib.nextSerial, content⟩, lib.hold place.text (reader.wrap content))
    | .error fault => (.error fault, lib)

/-- The definition at a path, which may be left out for a default. -/
def request {α : Type} (lib : Library) (world : Surroundings) (reader : Reader α)
    (path : Option String) (default : String) : Request α :=
  match world.locate lib.root path default with
  | .ok place => lib.requestAt world.files reader place
  | .error fault => (.error (.path fault), lib)

/-- The action at a path. -/
def action [Platform] (lib : Library) (world : Surroundings) (settings : Settings) (path : Option String) :
    Request Action :=
  lib.request world actions path settings.actionPath

/-- The workflow at a path. -/
def workflow [Platform] (lib : Library) (world : Surroundings) (settings : Settings) (path : Option String) :
    Request Workflow :=
  lib.request world workflows path settings.workflowPath

end Library

/-- The names of the declared inputs, in order of declaration. -/
def Action.inputNames (a : Action) : List String := a.inputs.keys

/-- The names of the steps of all jobs, in order. -/
def Workflow.stepNames (w : Workflow) : List String := w.allSteps.map (·.name)

end ActionRehearsal
