import ActionRehearsal.CommandLine.Usage
import ActionRehearsal.Settings
/-!
# Arguments

From the arguments of the program to what it is asked to do. Options of the program itself come
before the name of the command, and those of the command after it, in any order. An option takes
its value from the text after its equals sign or from the next argument, whatever that is. Two
dashes alone end the options.
-/

set_option autoImplicit false

namespace ActionRehearsal.CommandLine

open ActionRehearsal.Text

/-! ## Options -/

/-- An option and whether a value belongs to it. -/
structure OptionForm where
  name : String
  takesValue : Bool
  deriving DecidableEq

/-- What arguments hold: the options with their values, and all other arguments. An option that
takes no value has the empty one. -/
structure Scanned where
  given : List (String × String) := []
  operands : List String := []
  deriving DecidableEq

namespace Scanned

/-- Puts an option in front. -/
def addOption (name value : String) (s : Scanned) : Scanned :=
  { s with given := (name, value) :: s.given }

/-- Puts an argument that belongs to no option in front. -/
def addOperand (operand : String) (s : Scanned) : Scanned :=
  { s with operands := operand :: s.operands }

/-- Whether an option is given. -/
def has (s : Scanned) (name : String) : Bool := s.given.any fun entry => entry.1 == name

/-- All values of an option, in order. -/
def values (s : Scanned) (name : String) : List String :=
  (s.given.filter fun entry => entry.1 == name).map (·.2)

/-- The last value of an option. -/
def value? (s : Scanned) (name : String) : Option String := (s.values name).getLast?

end Scanned

/-- Whether an argument is meant as an option. -/
def isOptionLike (argument : String) : Bool :=
  match argument.toList with
  | '-' :: _ :: _ => true
  | _ => false

/-- The name in an argument and the value after its first equals sign. -/
def nameAndValue (argument : String) : String × Option String :=
  let s := argument.toList
  (String.ofList (s.takeWhile (· != '=')),
    match s.dropWhile (· != '=') with
    | [] => none
    | _ :: value => some (String.ofList value))

/-- The fault of an option that is not known. After a single dash only one character counts. -/
def unknownOption (options : List OptionForm) (argument : String) : UsageFault :=
  match argument.toList with
  | '-' :: '-' :: _ =>
    let name := (nameAndValue argument).1
    .unknownOption name (alikes name (options.map (·.name)))
  | s => .unknownOption (String.ofList (s.take 2)) []

/-- Reads arguments. If options and other arguments are not `mixed`, the first other argument ends
the options. -/
def scan (options : List OptionForm) (mixed : Bool) : List String → Except UsageFault Scanned
  | [] => .ok {}
  | argument :: rest =>
    if argument = "--" then .ok { operands := rest }
    else if isOptionLike argument then
      let (name, value?) := nameAndValue argument
      -- an option takes the next argument even if that looks like an option
      match options.find? fun option => option.name == name, value? with
      | none, _ => .error (unknownOption options argument)
      | some ⟨_, true⟩, some value => (scan options mixed rest).map (·.addOption name value)
      | some ⟨_, true⟩, none => match rest with
        | [] => .error (.missingValue name)
        | value :: rest => (scan options mixed rest).map (·.addOption name value)
      | some ⟨_, false⟩, none => (scan options mixed rest).map (·.addOption name "")
      | some ⟨_, false⟩, some _ => .error (.unexpectedValue name)
    else if mixed then (scan options mixed rest).map (·.addOperand argument)
    else .ok { operands := argument :: rest }

/-! ## Commands -/

/-- The commands of the program. -/
inductive CommandName where
  | inspect
  | lint
  | simulate
  deriving DecidableEq

namespace CommandName

/-- All commands. -/
def all : List CommandName := [.inspect, .lint, .simulate]

/-- The name of a command. -/
def text : CommandName → String
  | .inspect => "inspect"
  | .lint => "lint"
  | .simulate => "simulate"

/-- The command with the name. -/
def ofText? (name : String) : Option CommandName := all.find? fun command => command.text == name

end CommandName

/-- The option that asks for help. -/
def helpOption : OptionForm := ⟨"--help", false⟩

/-- The options of the program itself. -/
def programOptions : List OptionForm := [⟨"--debug", false⟩, helpOption]

/-- The options of a command. -/
def CommandName.options : CommandName → List OptionForm
  | .inspect => [⟨"--action", true⟩, ⟨"--workflow", true⟩, ⟨"--version-axis", true⟩, helpOption]
  | .lint => [⟨"--action", true⟩, ⟨"--workflow", true⟩, helpOption]
  | .simulate => [⟨"--action", true⟩, ⟨"--input", true⟩, ⟨"--mock", true⟩, ⟨"--fail", true⟩,
    ⟨"--permissive", false⟩, helpOption]

/-- What a rehearsal is asked for: the action, the inputs as they are written, the patterns of
commands that succeed and that fail, and whether all other commands succeed too. -/
structure SimulateOptions where
  action : Option String := none
  inputs : List String := []
  mocks : List String := []
  fails : List String := []
  permissive : Bool := false
  deriving DecidableEq

/-- What the program is asked to do; without any argument it is asked for an overview. -/
inductive Invocation where
  | overview
  | help (command : Option CommandName)
  | inspect (action workflow : Option String) (versionAxis : String)
  | lint (action workflow : Option String)
  | simulate (options : SimulateOptions)
  deriving DecidableEq

/-- What the program is asked to do, and whether in debug mode. -/
structure Arguments where
  debug : Bool
  invocation : Invocation
  deriving DecidableEq

/-- What the options of a command ask for. -/
def CommandName.invocation (settings : Settings) (given : Scanned) : CommandName → Invocation
  | .inspect => .inspect (given.value? "--action") (given.value? "--workflow")
    ((given.value? "--version-axis").getD settings.versionAxis)
  | .lint => .lint (given.value? "--action") (given.value? "--workflow")
  | .simulate => .simulate {
      action := given.value? "--action"
      inputs := given.values "--input"
      mocks := given.values "--mock"
      fails := given.values "--fail"
      permissive := given.has "--permissive" }

/-- What the arguments after the name of a command ask for. -/
def CommandName.read (settings : Settings) (command : CommandName) (arguments : List String) :
    Except UsageFault Invocation := do
  let given ← scan command.options true arguments
  if given.has helpOption.name then return .help (some command)
  match given.operands with
  | [] => return command.invocation settings given
  | first :: rest => throw (.extraArguments first rest)

/-- What the program is asked to do by arguments that name no known command. They may still hold
an option that comes too late. -/
def readUnknown (name : String) (arguments : List String) : Except UsageFault Invocation := do
  let given ← scan programOptions false (name :: arguments)
  if given.has helpOption.name then return .help none
  throw (.unknownCommand name (alikes name (CommandName.all.map CommandName.text)))

/-- What the program is asked to do by its arguments. -/
def Arguments.read (settings : Settings) (arguments : List String) :
    Except UsageFault Arguments := do
  let given ← scan programOptions false arguments
  let debug := given.has "--debug"
  if given.has helpOption.name then return ⟨debug, .help none⟩
  match given.operands with
  | [] => if arguments.isEmpty then return ⟨debug, .overview⟩ else throw .missingCommand
  | name :: rest => match CommandName.ofText? name with
    | some command => return ⟨debug, ← command.read settings rest⟩
    | none => return ⟨debug, ← readUnknown name rest⟩

end ActionRehearsal.CommandLine
