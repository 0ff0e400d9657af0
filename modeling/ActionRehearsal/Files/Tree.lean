import ActionRehearsal.Files.Path
/-!
# File trees

A `FileTree` says what stands at each place: a file with its bytes, a folder, or a link to another
path. Following a path goes down name by name, up at two dots, and through links. A link that is
met while it is being followed is a loop, and the way ends there; a name at which nothing stands
does not end the way, unless every name must exist.
-/

set_option autoImplicit false

namespace ActionRehearsal.Files

/-- What stands at a place. -/
inductive FileEntry where
  | file (bytes : List UInt8)
  | folder
  | link (target : String)
  deriving DecidableEq

/-- The entries of a file system by place. The top is a folder without being listed. -/
structure FileTree where
  entries : Table Place FileEntry := {}

/-- Where following a path ends: at a place, in a loop with names left, or at a missing name. -/
inductive WayEnd where
  | reached (place : Place)
  | loop (names : List String)
  | missing
  deriving DecidableEq

/-- The place that names lead to if nothing is a link. -/
def plainPlace (names : List String) : Place :=
  names.foldl (fun place name => if name = ".." then place.dropLast else place ++ [name]) []

namespace FileTree

/-- What stands at a place, if anything. -/
def entry? (t : FileTree) (place : Place) : Option FileEntry :=
  if place = [] then some .folder else t.entries.get? place

/-- Whether a way may go on through a place. -/
def isPassable (t : FileTree) (mustExist : Bool) (place : Place) : Bool :=
  !mustExist || (t.entry? place).isSome

/-- Follows names from a place. `active` are the links that are being followed, and `depth` bounds
how many more may be. -/
def follow (t : FileTree) (mustExist : Bool) (depth : Nat) (active : List Place) (place : Place)
    (names : List String) : WayEnd :=
  match names with
  | [] => .reached place
  | name :: rest =>
    if name = ".." then t.follow mustExist depth active place.dropLast rest
    else
      let next := place ++ [name]
      match t.entry? next, depth with
      | some (.link target), depth + 1 =>
        -- a link that is met while it is being followed leads to itself
        if active.contains next then .loop (next ++ rest)
        else
          -- the target is read from the folder of the link
          let path := Path.ofText target
          match t.follow mustExist depth (next :: active) (if path.startsAtTop then [] else place)
              path.names with
          | .reached place => t.follow mustExist (depth + 1) active place rest
          | .loop names => .loop (names ++ rest)
          | .missing => .missing
      | some (.link _), 0 => .loop (next ++ rest)
      | _, depth =>
        if t.isPassable mustExist next then t.follow mustExist depth active next rest
        else .missing
termination_by (depth, names.length)

/-- Where names lead from the top. The links of a way that is no loop are pairwise different. -/
def followFromTop (t : FileTree) (mustExist : Bool) (names : List String) : WayEnd :=
  t.follow mustExist (t.entries.size + 1) [] [] names

/-- The place that names lead to from the top. In a loop the names are taken as they stand, which
is a fault if they still lead into a loop. -/
def resolve (t : FileTree) (names : List String) : Except PathFault Place :=
  if hasZeroCharacter names then .error .zeroCharacter
  else match t.followFromTop false names with
    | .reached place => .ok place
    | .loop names =>
      let place := plainPlace names
      match t.followFromTop true place with
      | .loop _ => .error (.loop place)
      | _ => .ok place
    | .missing => .ok (plainPlace names)

/-! ## Changing a tree -/

/-- The place of names whose last one is not followed. -/
def placeOfEntry (t : FileTree) (names : List String) : Place :=
  match t.followFromTop false names.dropLast, names.getLast? with
  | .reached folder, some name => folder ++ [name]
  | _, _ => plainPlace names

/-- The tree in which the place and all above it are folders, as far as nothing else is there. -/
def makeFolders (t : FileTree) (place : Place) : FileTree :=
  let prefixes := (List.range place.length).map fun n => place.take (n + 1)
  ⟨prefixes.foldl (fun entries folder =>
    if entries.has folder then entries else entries.set folder .folder) t.entries⟩

/-- The tree in which an entry stands at a place, in folders made for it. -/
def put (t : FileTree) (place : Place) (entry : FileEntry) : FileTree :=
  ⟨(t.makeFolders place.dropLast).entries.set place entry⟩

/-- The tree after writing a file. -/
def write (t : FileTree) (names : List String) (bytes : List UInt8) : FileTree :=
  match t.followFromTop false names with
  | .reached place => t.put place (.file bytes)
  | _ => t

/-- The tree after making a folder. -/
def makeFolder (t : FileTree) (names : List String) : FileTree :=
  match t.followFromTop false names with
  | .reached place => t.makeFolders place
  | _ => t

/-- The tree after making a link. -/
def makeLink (t : FileTree) (names : List String) (target : String) : FileTree :=
  t.put (t.placeOfEntry names) (.link target)

/-- The tree without an entry and all below it. -/
def remove (t : FileTree) (names : List String) : FileTree :=
  let place := t.placeOfEntry names
  ⟨t.entries.filter fun other _ => !place.isPrefixOf other⟩

end FileTree

end ActionRehearsal.Files
