import ActionRehearsal.Definition.Fault
import ActionRehearsal.Files.Tree
import ActionRehearsal.Text.Utf8
/-!
# File systems

A `FileSystem` answers two questions: which place names lead to, and what is found there. Together
with the working folder, the home folders and the chosen root it is all that reading a document
needs; `Surroundings.locate` finds the place of a document and `FileSystem.textAt` its text.
-/

set_option autoImplicit false

namespace ActionRehearsal.Files

open ActionRehearsal.Text

/-- What is found at a place once links have been followed: nothing, a folder, a file, something that
cannot be read, or not even whether something is there. -/
inductive Found where
  | nothing
  | folder
  | file (bytes : List UInt8)
  | unreadable (fault : SystemFault)
  | hidden (fault : SystemFault)
  deriving DecidableEq

/-- A file system, as far as it is asked. -/
structure FileSystem where
  resolve : List String → Except PathFault Place
  find : Place → Found

/-- The greatest number of bytes of a name. -/
def nameLimit : Nat := 255

/-- The least number of bytes that the text of a place cannot have. -/
def pathLimit : Nat := 4096

/-- Whether a name that is too long is looked up in a folder on the way to a place. -/
def FileTree.looksUpLongName (t : FileTree) (place : Place) : Bool :=
  (List.range place.length).any fun n =>
    t.entry? (place.take n) = some .folder &&
      place[n]?.any fun name => nameLimit < name.utf8ByteSize

/-- What is found in a tree. -/
def FileTree.find (t : FileTree) (place : Place) : Found :=
  if pathLimit ≤ place.text.utf8ByteSize || t.looksUpLongName place then .hidden .nameTooLong
  else match t.entry? place with
    | some (.file bytes) => .file bytes
    | some .folder => .folder
    | some (.link _) => .nothing
    | none => .nothing

/-- The file system that a tree describes. -/
def FileTree.system (t : FileTree) : FileSystem where
  resolve := t.resolve
  find := t.find

/-- A file system with the folders from which paths start. The homes are kept by account. -/
structure Surroundings where
  files : FileSystem
  workingFolder : Place := []
  homes : Table String Place := {}

/-- The names of the folder from which relative paths are read: the root if one is chosen, or else
the working folder. -/
def Surroundings.base (world : Surroundings) (root : Option String) : List String :=
  match root with
  | some root => (Path.ofText root).namesFrom world.workingFolder
  | none => world.workingFolder

/-- The names from the top that a path gives, which may be left out for a default. Only a given
path may start at a home folder. -/
def Surroundings.namesFor (world : Surroundings) (root path : Option String) (default : String) :
    Except PathFault (List String) := do
  let path ← match path with
    | some text => (Path.ofText text).withHome world.homes
    | none => pure (Path.ofText default)
  return path.namesFrom (world.base root)

/-- The place of a document. -/
def Surroundings.locate (world : Surroundings) (root path : Option String) (default : String) :
    Except PathFault Place := do
  world.files.resolve (← world.namesFor root path default)

/-- Why a place has no text: looking there fails, or what is there is refused. -/
inductive TextFault where
  | hidden (fault : SystemFault)
  | refused (e : ConfigError)
  deriving DecidableEq

/-- The refusal of what is found at a place. -/
def TextFault.ofCause (place : Place) (cause : ConfigCause) : TextFault :=
  .refused ⟨cause, some place.text⟩

/-- The text of the file at a place, with every line end written as a newline. -/
def FileSystem.textAt (files : FileSystem) (place : Place) : Except TextFault String :=
  match files.find place with
  | .nothing => .error (.ofCause place .fileNotFound)
  | .folder => .error (.ofCause place (.unreadable (.system .isFolder place.text)))
  | .unreadable fault => .error (.ofCause place (.unreadable (.system fault place.text)))
  -- whether something is there is asked before anything is read, and a failure then is no refusal
  | .hidden fault => .error (.hidden fault)
  | .file bytes => match decodeUtf8 bytes with
    | .ok text => .ok (String.ofList (unifyNewlines text.toList))
    | .error fault => .error (.ofCause place (.unreadable (.notUtf8 fault)))

end ActionRehearsal.Files
