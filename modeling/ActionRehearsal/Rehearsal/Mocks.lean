import ActionRehearsal.Definition.Fault
import ActionRehearsal.Text.Search
/-!
# Mocks

`Mocks` stand in for a shell: a registry that maps parts of commands to handlers, and the outputs
that steps have recorded. A command goes to the handler of the first registered pattern that
occurs in it. Handlers act on the mocks themselves, so a dispatch may dispatch again; nested calls
take places, of which there are finitely many, and a handler that calls itself for ever fails when
they are used up.
-/

set_option autoImplicit false

namespace ActionRehearsal

/-- The plain kinds of failure that a handler may report. Every kind has a name. -/
inductive FailureKind where
  | runtime
  | value
  | type
  | other (name : String) (named : name ≠ "")
  deriving DecidableEq

/-- The name of a kind of failure. -/
def FailureKind.name : FailureKind → String
  | .runtime => "RuntimeError"
  | .value => "ValueError"
  | .type => "TypeError"
  | .other name _ => name

/-- Why a command failed: no pattern occurs in it, a handler gave up with a value, a document was
not accepted, a handler reported a plain failure, or nested calls went too deep. -/
inductive Fault where
  | unmatched (command : String)
  | aborted (value : Value)
  | config (e : ConfigError)
  | plain (kind : FailureKind) (text : Option String)
  | tooDeep (inLookup : Bool)

namespace Fault

/-- The name of the kind of a fault. -/
def kindName : Fault → String
  | .unmatched _ => "NoMockError"
  | .aborted _ => "StepAborted"
  | .config _ => "ConfigError"
  | .plain kind _ => kind.name
  | .tooDeep _ => "RecursionError"

/-- The text of a fault, which may be empty. -/
def text : Fault → String
  | .unmatched command => "No mock found for command: " ++ command
  | .aborted value => value.display
  | .config e => e.text
  | .plain _ text => text.getD ""
  | .tooDeep inLookup =>
    "maximum recursion depth exceeded"
      ++ (if inLookup then " while calling a Python object" else "")

/-- The text of a fault, or the name of its kind if the text is empty. -/
def report (fault : Fault) : String := if fault.text = "" then fault.kindName else fault.text

end Fault

/-- What a dispatch gives: a value or a fault. -/
abbrev Reply : Type := Except Fault Value

/-- What a handler does when it is called: it acts on the mocks, goes on as their answers decide,
and finishes with a reply. What it remembers from one call to the next it keeps as notes. -/
inductive Handler where
  | finish (reply : Reply)
  | note (text : String) (next : Handler)
  | recall (next : List String → Handler)
  | setOutput (key value : String) (next : Handler)
  | getOutput (key : String) (next : Option String → Handler)
  | listOutputs (next : Table String String → Handler)
  | listPatterns (next : List String → Handler)
  | register (pattern : String) (handler next : Handler)
  | execute (command : String) (next : Reply → Handler)
  | reset (next : Handler)

/-- The registry of handlers by pattern, the recorded outputs, and what handlers have noted. -/
structure Mocks where
  handlers : Table String Handler := {}
  outputs : Table String String := {}
  notes : List String := []

namespace Mocks

/-- Registers a handler. A pattern that is registered already keeps its place. -/
def register (m : Mocks) (pattern : String) (handler : Handler) : Mocks :=
  { m with handlers := m.handlers.set pattern handler }

/-- Records an output. -/
def setOutput (m : Mocks) (key value : String) : Mocks :=
  { m with outputs := m.outputs.set key value }

/-- The recorded value of an output. -/
def getOutput (m : Mocks) (key : String) : Option String := m.outputs.get? key

/-- Forgets all handlers and outputs. -/
def reset (m : Mocks) : Mocks := { m with handlers := {}, outputs := {} }

/-- Takes a note. -/
def note (m : Mocks) (text : String) : Mocks := { m with notes := m.notes ++ [text] }

/-- The registered patterns, in order of first registration. -/
def patterns (m : Mocks) : List String := m.handlers.keys

/-- The handler of the first pattern that occurs in the command. -/
def handlerFor? (m : Mocks) (command : String) : Option Handler :=
  (m.handlers.entries.find? fun entry => command.holds entry.1).map (·.2)

end Mocks

/-- What executing a command gives and does to the mocks. -/
abbrev Executor : Type := String → Mocks → Reply × Mocks

/-- Runs a handler; `dispatch` is what its own commands do. -/
def Handler.run (dispatch : Executor) : Handler → Mocks → Reply × Mocks
  | .finish reply, m => (reply, m)
  | .note text next, m => next.run dispatch (m.note text)
  | .recall next, m => (next m.notes).run dispatch m
  | .setOutput key value next, m => next.run dispatch (m.setOutput key value)
  | .getOutput key next, m => (next (m.getOutput key)).run dispatch m
  | .listOutputs next, m => (next m.outputs).run dispatch m
  | .listPatterns next, m => (next m.patterns).run dispatch m
  | .register pattern handler next, m => next.run dispatch (m.register pattern handler)
  | .execute command next, m =>
    let (reply, m) := dispatch command m
    (next reply).run dispatch m
  | .reset next, m => next.run dispatch m.reset

namespace Mocks

/-- Dispatches a command with the given number of places left. The dispatch takes one place and
its handler another. -/
def dispatch : Nat → Executor
  | 0, _, m => (.error (.tooDeep false), m)
  | 1, _, m => (.error (.tooDeep true), m)
  | places + 2, command, m =>
    match m.handlerFor? command with
    | none => (.error (.unmatched command), m)
    | some handler => handler.run (dispatch places) m

/-- The number of places for nested calls. -/
def allPlaces : Nat := 993

/-- Executes a command. -/
def execute (m : Mocks) (command : String) : Reply × Mocks := dispatch allPlaces command m

end Mocks

end ActionRehearsal
