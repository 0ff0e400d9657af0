import ActionRehearsal.Rehearsal.Mocks
/-!
# Dialects

How the commands of a step are taken depends on its shell. Under PowerShell nothing is executed:
commands that write an output are recorded, and the two marks of a probe for a shell record which
branch was seen last. Under all other shells a command that writes an output is recorded and
every other command is executed.
-/

set_option autoImplicit false

namespace ActionRehearsal

open ActionRehearsal.Text

/-- The two ways of taking commands. -/
inductive Dialect where
  | standard
  | powershell
  deriving DecidableEq

namespace Dialect

/-- The dialect of a shell. -/
def ofShell (shell : Option String) : Dialect :=
  if shell = some Shell.powershell.name then .powershell else .standard

/-- What follows the value in a command that writes an output. -/
def ending : Dialect → List Char
  | .standard => "\" >> $GITHUB_OUTPUT".toList
  | .powershell => "\" >> $env:GITHUB_OUTPUT".toList

/-- What comes before the name in a command that writes an output. -/
def opening : List Char := "echo \"".toList

/-- Reads a written output at the start of a text: its name and its value, each as short as
possible. -/
def assignment? (dialect : Dialect) (s : List Char) : Option (List Char × List Char) := do
  let s ← literal opening s
  let (name, value, _) ←
    shortestRun (fun s => (literal ['='] s).bind (shortestRun (literal dialect.ending))) s
  return (name, value)

/-- The first output that a command writes. -/
def written? (dialect : Dialect) (command : String) : Option (String × String) :=
  (firstMatch dialect.assignment? command.toList).map fun found =>
    (String.ofList found.1, String.ofList found.2)

/-- Whether a command may write an output. -/
def mayWrite (command : String) : Bool := command.holds "echo" && command.holds "GITHUB_OUTPUT"

end Dialect

/-- The output that says whether a shell was found. -/
def bashAvailable : String := "bash_available"

/-- Records an output of a step. -/
def Mocks.record (m : Mocks) (id : Option String) (output : String × String) : Mocks :=
  m.setOutput (outputKey id output.1) output.2

/-- Takes a command of a step without executing it. -/
def Mocks.probe (id : Option String) (command : String) (m : Mocks) : Mocks :=
  -- a command that mentions an output is no mark of the probe, even if it writes none
  if Dialect.mayWrite command then
    match Dialect.powershell.written? command with
    | some output => m.record id output
    | none => m
  else if command.holds "try \x7b" then m.record id (bashAvailable, "true")
  else if command.holds "\x7d catch \x7b" then m.record id (bashAvailable, "false")
  else m

/-- Takes a command of a step, recording the output that it writes or else executing it. -/
def Mocks.perform (execute : Executor) (id : Option String) (command : String) (m : Mocks) :
    Except Fault Unit × Mocks :=
  let output := if Dialect.mayWrite command then Dialect.standard.written? command else none
  match output with
  | some output => (.ok (), m.record id output)
  | none =>
    let (reply, m) := execute command m
    (reply.map fun _ => (), m)

/-- Takes a command of a step in a dialect. -/
def Mocks.handle (execute : Executor) (dialect : Dialect) (id : Option String) (command : String)
    (m : Mocks) : Except Fault Unit × Mocks :=
  match dialect with
  | .standard => m.perform execute id command
  | .powershell => (.ok (), m.probe id command)

end ActionRehearsal
