import ActionRehearsal.CommandLine.Run
/-!
# The program

Looks at the files that the arguments name, runs the program on what it has seen, and prints.
Nothing else of the file system is read.
-/

set_option autoImplicit false

namespace ActionRehearsal

open ActionRehearsal.Files ActionRehearsal.CommandLine

/-- The paths that an invocation may read, each with its default. -/
def Invocation.paths (settings : Settings) : Invocation → List (Option String × String)
  | .overview | .help _ => []
  | .inspect action workflow _ => [(action, settings.actionPath), (workflow, settings.workflowPath)]
  | .lint action workflow => [(action, settings.actionPath), (workflow, settings.workflowPath)]
  | .simulate options => [(options.action, settings.actionPath)]

/-- What was seen under names: the place that they lead to and what is found there. -/
structure Sighting where
  names : List String
  place : Place
  found : Found

/-- The file system that holds what was seen and nothing else. -/
def systemOf (sightings : List Sighting) : FileSystem where
  resolve names := match sightings.find? fun s => s.names == names with
    | some s => .ok s.place
    | none => .ok (plainPlace names)
  find place := match sightings.find? fun s => s.place == place with
    | some s => s.found
    | none => .nothing

/-- The place that names lead to. Names at the end at which nothing stands are taken as they are;
`depth` bounds how many there are. -/
def realPlace (depth : Nat) (names : List String) : IO Place :=
  match depth with
  | 0 => pure (plainPlace names)
  | depth + 1 => do
    try
      let path ← IO.FS.realPath ⟨Place.text names⟩
      return (Path.ofText path.toString).names
    catch _ =>
      match names.getLast? with
      | none => return []
      | some name => return plainPlace ((← realPlace depth names.dropLast) ++ [name])

/-- The answer of the system in an error, if it refused what it was asked. -/
def systemFault? : IO.Error → Option SystemFault
  | .permissionDenied _ number reason => some ⟨number.toNat, reason⟩
  | .invalidArgument _ number reason => some ⟨number.toNat, reason⟩
  | _ => none

/-- The number of the answer that links lead in a circle, where nothing is found. -/
def linkCircle : Nat := 40

/-- What is found at a place. -/
def look (place : Place) : IO Found := do
  try
    let _ ← IO.FS.realPath ⟨place.text⟩
  catch e =>
    return match systemFault? e with
      | some fault => if fault.number = linkCircle then .nothing else .hidden fault
      | none => .nothing
  try
    return .file (← IO.FS.readBinFile ⟨place.text⟩).toList
  catch e =>
    return match systemFault? e with
      | some fault => .unreadable fault
      | none => .folder

/-- Looks at names. -/
def sight (names : List String) : IO Sighting := do
  let place ← realPlace names.length names
  return ⟨names, place, ← look place⟩

/-- The variables of the environment that settings are read from. -/
def settingVariables : List String :=
  ["ACTIONCHECK_ACTION_PATH", "ACTIONCHECK_WORKFLOW_PATH", "ACTIONCHECK_MATRIX_JOB",
    "ACTIONCHECK_VERSION_AXIS"]

/-- The settings in the environment of the process. -/
def readSettings : IO Settings := do
  let values ← settingVariables.filterMapM fun name => do
    return (← IO.getEnv name).map fun value => (name, value)
  return Settings.ofEnvironment (Table.ofList values)

/-- The surroundings of the process, with nothing seen yet. -/
def readSurroundings : IO Surroundings := do
  let home ← IO.getEnv "HOME"
  return {
    files := systemOf []
    workingFolder := (Path.ofText (← IO.currentDir).toString).names
    homes := match home with
      | some home => Table.ofList [("", (Path.ofText home).names)]
      | none => {} }

/-- The surroundings in which everything that an invocation may read has been seen. -/
def withSightings (world : Surroundings) (settings : Settings) (invocation : Invocation) :
    IO Surroundings := do
  let names := (Invocation.paths settings invocation).filterMap fun path =>
    (world.namesFor none path.1 path.2).toOption
  return { world with files := systemOf (← names.mapM sight) }

/-- The surroundings for a run on arguments. -/
def surroundingsFor (settings : Settings) (arguments : List String) : IO Surroundings := do
  let world ← readSurroundings
  match Arguments.read settings arguments with
  | .ok arguments => withSightings world settings arguments.invocation
  | .error _ => return world

/-- Prints the outcome of a run and gives its exit status. -/
def report (o : Outcome) : IO UInt32 := do
  for print in o.printed do
    match print.channel with
    | .results => IO.println print.text
    | .errors => IO.eprintln print.text
  match o.escape with
  | some escape => IO.eprintln escape.message
  | none => pure ()
  return o.status.toUInt32

end ActionRehearsal

open ActionRehearsal in
/-- Runs the program. -/
def main (arguments : List String) : IO UInt32 := do
  let settings ← readSettings
  report (CommandLine.runIn .utf8 (← surroundingsFor settings arguments) settings arguments)
