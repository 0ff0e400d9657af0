import ActionRehearsal.Table
import ActionRehearsal.Text.Lines
import ActionRehearsal.Text.Quoted
/-!
# Paths

A path is a text with names between slashes. `Place` is where a path leads: the names of the
folders and of the entry on the way down from the top, with nothing left to follow. A path that
does not start at the top starts at a base folder, or at a home folder if its first name is a
tilde with the name of an account; the empty name stands for one's own account.
-/

set_option autoImplicit false

namespace ActionRehearsal.Files

open ActionRehearsal.Text

/-- A place in a file system, by the names on the way down from the top. -/
abbrev Place : Type := List String

/-- The text of a place. -/
def Place.text (place : Place) : String := "/" ++ "/".intercalate place

/-- A path: its names, which may be two dots for the folder above, and whether it starts at the
top. -/
structure Path where
  startsAtTop : Bool
  names : List String
  deriving DecidableEq

/-- Whether a part of a path text is a name; an empty part and a single dot are none. -/
def isName (part : String) : Bool := part != "" && part != "."

/-- The path of a text. -/
def Path.ofText (text : String) : Path where
  startsAtTop := text.toList.head? == some '/'
  names := ((splitAtEach '/' text.toList).map String.ofList).filter isName

/-- Why a path leads to no place. -/
inductive PathFault where
  | zeroCharacter
  | unknownAccount
  | loop (place : Place)
  deriving DecidableEq

/-- The wording of a path fault. -/
def PathFault.message : PathFault → String
  | .zeroCharacter => "embedded null byte"
  | .unknownAccount => "Could not determine home directory."
  | .loop place => "Symlink loop from " ++ quoted place.text

/-- What a system answers where it fails: a number, and what it means. -/
structure SystemFault where
  number : Nat
  reason : String
  deriving DecidableEq

namespace SystemFault

/-- There is a folder where a file is needed. -/
def isFolder : SystemFault := ⟨21, "Is a directory"⟩

/-- A name or a path is longer than any that the system has. -/
def nameTooLong : SystemFault := ⟨36, "File name too long"⟩

/-- The wording of a fault at a path. -/
def message (fault : SystemFault) (path : String) : String :=
  "[Errno " ++ toString fault.number ++ "] " ++ fault.reason ++ ": " ++ quoted path

end SystemFault

/-- Whether some name holds the character zero, which no file system can store. -/
def hasZeroCharacter (names : List String) : Bool :=
  names.any fun name => name.toList.contains (Char.ofNat 0)

/-- The path with its home folder put in, if its first name asks for one. -/
def Path.withHome (homes : Table String Place) (path : Path) : Except PathFault Path :=
  match path.startsAtTop, path.names with
  | false, name :: rest =>
    match name.toList with
    | '~' :: account =>
      if hasZeroCharacter [name] then .error .zeroCharacter
      else match homes.get? (String.ofList account) with
        | some home => .ok ⟨true, home ++ rest⟩
        | none => .error .unknownAccount
    | _ => .ok path
  | _, _ => .ok path

/-- The names of a path from the top, if it is read from the base folder. -/
def Path.namesFrom (base : List String) (path : Path) : List String :=
  if path.startsAtTop then path.names else base ++ path.names

end ActionRehearsal.Files
