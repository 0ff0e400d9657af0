import ActionRehearsal.Yaml.Layout
import ActionRehearsal.Yaml.Merge
import ActionRehearsal.Yaml.Scalar
/-!
# The value of a text

`Node.value` gives the value of a node and `valueOfText` that of a whole text. Of several faults
the one nearest to the root is reported, and of those the first: collections are looked into only
after everything beside them.
-/

set_option autoImplicit false

namespace ActionRehearsal.Yaml

/-- A fault and how deep in the document it lies. -/
structure Flaw where
  depth : Nat
  fault : Fault

/-- What a part of a document is read as. -/
abbrev Built (α : Type) : Type := Except Flaw α

namespace Built

/-- Two parts side by side; of two flaws the one less deep, or else the first. -/
def both {α β : Type} (a : Built α) (b : Built β) : Built (α × β) :=
  match a, b with
  | .ok a, .ok b => .ok (a, b)
  | .ok _, .error f => .error f
  | .error e, .ok _ => .error e
  | .error e, .error f => .error (if f.depth < e.depth then f else e)

/-- All parts of a list side by side. -/
def all {α : Type} : List (Built α) → Built (List α)
  | [] => .ok []
  | a :: rest => (both a (all rest)).map fun found => found.1 :: found.2

/-- A flaw at a depth. -/
def malformed {α : Type} (depth : Nat) (cause : Malformed) : Built α :=
  .error ⟨depth, .malformed cause⟩

end Built

namespace Node

/-- The text of a scalar, or of the entry of a mapping that is marked as its default value, with
its place. -/
def scalarText? (room : Nat) (node : Node) : Option (String × Nat) :=
  match room, node with
  | _, .scalar _ text place => some (text, place)
  | room + 1, .mapping _ entries =>
    (entries.find? fun entry => entry.1.kind = .defaultValue).bind fun entry =>
      scalarText? room entry.2
  | _, _ => none

/-- The value, in which an undefined number is told from those of other places. -/
def atPlace (place : Nat) : Value → Value
  | .scalar s => .scalar (s.marked (place + 2))
  | v => v

/-- The value that a node has by its text as a scalar. A date is looked for in the node itself, not
in the default value of a mapping. -/
def scalarValueIn (node : Node) (kind : Kind) (text : String) : Except Fault Value :=
  match kind, node with
  | .timestamp, .mapping _ _ => breakOff .noText
  | _, _ => scalarValue kind text

/-- The value of a node of a scalar kind. -/
def scalarBuilt (depth : Nat) (node : Node) : Built Value :=
  match node.kind with
  | .merge | .defaultValue | .unknown => .malformed depth .unknownTag
  | kind => match scalarText? node.height node with
    | none => .malformed depth .wrongKind
    | some (text, place) =>
      ((scalarValueIn node kind text).map (atPlace place)).mapError fun fault => ⟨depth, fault⟩

/-- A key as a scalar; nothing else can be one. -/
def keyOf (depth : Nat) (key : Built Value) : Built Scalar :=
  match key with
  | .error flaw => .error flaw
  | .ok (.scalar s) => .ok s
  | .ok _ => .malformed depth .unhashableKey

/-- The value of a node at a depth; what is inside a collection lies one deeper. `room` bounds the
nodes around one another. -/
def build (room depth : Nat) (node : Node) : Built Value :=
  match room with
  | 0 => .malformed depth .wrongKind
  | room + 1 =>
    let inside := depth + 1
    -- a collection is no key, whatever is wrong inside it
    let keyed := fun (key : Node) =>
      if key.isCollection then Built.malformed inside .unhashableKey
      else keyOf inside (build room inside key)
    let entry := fun (entry : Node × Node) =>
      Built.both (keyed entry.1) (build room inside entry.2)
    -- the items of an ordered mapping are mappings with one entry each
    let pair : Node → Built Value := fun item => match item with
      | .mapping _ [(key, value)] =>
        (Built.both (build room inside key) (build room inside value)).map fun found =>
          Value.tuple [found.1, found.2]
      | _ => .malformed inside .wrongKind
    let entriesOf : Node → Built (List (Scalar × Value)) := fun node => match node with
      | .mapping _ entries =>
        match flattened (2 * node.height) entries with
        | .error cause => .malformed inside cause
        | .ok entries => Built.all (entries.map fun (key, value) => entry (asText key, value))
      | _ => .malformed inside .wrongKind
    match node.kind, node with
    | .sequence, .sequence _ items => (Built.all (items.map (build room inside))).map .list
    | .mapping, node => (entriesOf node).map Value.mapOfEntries
    | .set, node => (entriesOf node).map fun entries => Value.setOfMembers (entries.map (·.1))
    | .orderedMap, .sequence _ items => (Built.all (items.map pair)).map .list
    | .pairs, .sequence _ items => (Built.all (items.map pair)).map .list
    | .sequence, _ | .orderedMap, _ | .pairs, _ => .malformed inside .wrongKind
    | _, node => scalarBuilt depth node

/-- The value of a document. -/
def value (node : Node) : Except Fault Value :=
  (build node.height 0 node.settled).mapError Flaw.fault

end Node

/-- The value of a YAML text; a text without a document has the value null. -/
def valueOfText [Platform] (text : String) : Except Fault Value := do
  match ← Node.ofTokens (Layout.scanned text.toList) with
  | none => return .null
  | some node => node.value

end ActionRehearsal.Yaml
