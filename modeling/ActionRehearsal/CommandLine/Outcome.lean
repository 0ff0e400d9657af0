import ActionRehearsal.Analysis.Matrix
import ActionRehearsal.CommandLine.Usage
import ActionRehearsal.Console
import ActionRehearsal.Definition.Library
/-!
# Outcomes

What a run of the program leaves behind: what it printed, its exit status, and the fault that cut
it short, if one escaped. A document that is not accepted and arguments that are wrong are
reported; a path that leads nowhere, a place that cannot be looked at, a reading that breaks down and
an axis without items escape. So does a result that cannot be written (`Outcome.writtenIn`).
-/

set_option autoImplicit false

namespace ActionRehearsal.CommandLine

/-- A fault that no report is made of. -/
inductive Escape where
  | path (fault : Files.PathFault)
  | hidden (fault : Files.SystemFault) (place : Files.Place)
  | breakdown (fault : Yaml.Breakdown)
  | noItems (fault : Analysis.NoItems)
  | unwritable (fault : Text.EncodingFault)
  deriving DecidableEq

/-- The wording of an escaped fault. -/
def Escape.message : Escape → String
  | .path fault => fault.message
  | .hidden fault place => fault.message place.text
  | .breakdown fault => fault.message
  | .noItems fault => fault.message
  | .unwritable fault => fault.message

/-- What a run leaves behind. -/
structure Outcome where
  printed : Printed := {}
  status : Nat := 0
  escape : Option Escape := none
  deriving DecidableEq

namespace Outcome

/-- A run that did all it was asked for; `failed` says whether something was found wrong. -/
def done (printed : Printed) (failed : Bool) : Outcome := ⟨printed, if failed then 1 else 0, none⟩

/-- A run that was cut short. -/
def cut (printed : Printed) (escape : Escape) : Outcome := ⟨printed, 1, some escape⟩

/-- The report of a document that was not accepted. -/
def ofConfigError (console : Console) (e : ConfigError) : Outcome :=
  let details := match e.givenPath with
    | some path => ["path: " ++ path]
    | none => []
  let report := Console.error "Invalid configuration" e.message details ""
  let account := if console.debug then console.exception "ConfigError" e.text else Printed.nothing
  done (report ++ account) true

/-- A run whose arguments are of no use. -/
def misused (printed : Printed) : Outcome := ⟨printed, 2, none⟩

/-- The report of wrong arguments. -/
def ofUsageFault (fault : UsageFault) : Outcome :=
  misused (Printed.errorLine ("Error: " ++ withoutControls fault.message))

/-- The outcome of a run that needed a definition and did not get it. -/
def ofLibraryFault (console : Console) : LibraryFault → Outcome
  | .path fault => cut Printed.nothing (.path fault)
  | .hidden fault place => cut Printed.nothing (.hidden fault place)
  | .read (.refused e) => ofConfigError console e
  | .read (.breakdown fault) => cut Printed.nothing (.breakdown fault)

/-- What is left of a run where texts are written in an encoding: a result that cannot be written cuts
it short. -/
def writtenIn [Platform] (e : Text.Encoding) (o : Outcome) : Outcome :=
  match e.written o.printed with
  | (printed, none) => { o with printed }
  | (printed, some fault) => cut printed (.unwritable fault)

end Outcome

/-- Where and how the program runs. -/
structure Setting where
  world : Files.Surroundings
  settings : Settings := {}
  console : Console := {}

end ActionRehearsal.CommandLine
