import ActionRehearsal.Yaml.Node
/-!
# Merge keys and default keys

Two marks are keys of a mapping and not values. A merge key is replaced by the entries it names,
which the mapping's own entries override. A default key counts as text once its mapping has been
looked into, and then every alias of it counts as text too; `Node.settled` is the document in
which those are texts. Collections are looked into level by level.
-/

set_option autoImplicit false

namespace ActionRehearsal.Yaml

namespace Node

/-! ## Merge keys -/

mutual

/-- The greatest number of nodes around one another. -/
def height : Node → Nat
  | .scalar _ _ _ => 1
  | .sequence _ items => heights items + 1
  | .mapping _ entries => entryHeights entries + 1

/-- The greatest height in a list. -/
def heights : List Node → Nat
  | [] => 0
  | node :: rest => max (height node) (heights rest)

/-- The greatest height among keys and values. -/
def entryHeights : List (Node × Node) → Nat
  | [] => 0
  | (key, value) :: rest => max (max (height key) (height value)) (entryHeights rest)

end

/-- A scalar with the mark of a default value as text; any other node as it is. -/
def asText : Node → Node
  | .scalar .defaultValue text place => .scalar .text text place
  | node => node

mutual

/-- The entries that the value of a merge key names: those of a mapping, or of a list of mappings,
of which the later ones come first. -/
def mergedEntries (room : Nat) (value : Node) : Except Malformed (List (Node × Node)) :=
  match room, value with
  | 0, _ => .error .badMerge
  | room + 1, .mapping _ entries => flattened room entries
  | room + 1, .sequence _ items => do
    let parts ← items.mapM fun item => match item with
      | .mapping _ entries => flattened room entries
      | _ => .error .badMerge
    return parts.reverse.flatten
  | _, .scalar _ _ _ => .error .badMerge

/-- The entries of a mapping without merge keys: first the merged ones, then its own. -/
def flattened (room : Nat) (entries : List (Node × Node)) :
    Except Malformed (List (Node × Node)) :=
  match room with
  | 0 => .error .badMerge
  | room + 1 => do
    let merges := entries.filter fun entry => entry.1.kind = .merge
    let own := entries.filter fun entry => entry.1.kind ≠ .merge
    let merged ← merges.mapM fun entry => mergedEntries room entry.2
    return merged.flatten ++ own

end

/-! ## Default keys -/

/-- The place of a scalar with the mark of a default value. -/
def defaultPlace? : Node → Option Nat
  | .scalar .defaultValue _ place => some place
  | _ => none

/-- Whether a node is read as a collection, whatever it is. -/
def isCollection (node : Node) : Bool :=
  [Kind.sequence, .mapping, .set, .orderedMap, .pairs].contains node.kind

/-- The places of the default values that are met when a node is read as a scalar: its own, or that
of the first default key of a mapping and those that the value of the key leads to. The places
`texts` count as text already. -/
def metPlaces (texts : List Nat) (room : Nat) (node : Node) : List Nat :=
  match room, node with
  | _, .scalar .defaultValue _ place => [place].filter fun place => !texts.contains place
  | room + 1, .mapping _ entries =>
    let isDefault := fun (key : Node) =>
      key.kind = .defaultValue && !(key.defaultPlace?.any texts.contains)
    match entries.find? fun entry => isDefault entry.1 with
    | some (key, value) => key.defaultPlace?.toList ++ metPlaces texts room value
    | none => []
  | _, _ => []

/-- What is looked at together with a collection: the places of its default keys, and the nodes
in it. -/
structure Parts where
  defaultKeys : List Nat := []
  nodes : List Node := []

/-- The parts of a mapping, with its merge keys replaced. -/
def mappingParts (node : Node) (entries : List (Node × Node)) : Parts :=
  match flattened (2 * node.height) entries with
  | .ok entries =>
    ⟨entries.filterMap fun entry => entry.1.defaultPlace?,
      entries.flatMap fun entry => [asText entry.1, entry.2]⟩
  | .error _ => {}

/-- The parts of a pair, which is a mapping with one entry. -/
def pairParts : Node → List Node
  | .mapping _ [(key, value)] => [key, value]
  | _ => []

/-- The parts of a collection; nothing else has any. -/
def parts (node : Node) : Parts :=
  match node with
  | .mapping .mapping entries | .mapping .set entries => mappingParts node entries
  | .sequence .sequence items => { nodes := items }
  | .sequence .orderedMap items | .sequence .pairs items => { nodes := items.flatMap pairParts }
  | _ => {}

/-- The default keys that have been met, and the places at which a default value stood before it
was met as a key. -/
structure Settling where
  keys : List Nat := []
  early : List Nat := []

/-- Looks into a collection: its default keys count as text from here on. -/
def Settling.visit (s : Settling) (p : Parts) : Settling :=
  let keys := s.keys ++ p.defaultKeys
  let scalars := p.nodes.filter fun node => !node.isCollection
  ⟨keys, s.early ++ scalars.flatMap fun node => metPlaces keys node.height node⟩

/-- Looks into the nodes of a level and then into those of the levels below; `room` bounds their
number. -/
def Settling.descend : Nat → Settling → List Node → Settling
  | 0, s, _ => s
  | _, s, [] => s
  | room + 1, s, level =>
    let found := level.map parts
    Settling.descend room (found.foldl Settling.visit s) (found.flatMap (·.nodes))

/-- The places of default values that count as text wherever they stand. -/
def textPlaces (node : Node) : List Nat :=
  let s := Settling.descend (node.height + 1) {} [node]
  s.keys.filter fun place => !s.early.contains place

mutual

/-- The node in which the default values at the places are texts. -/
def withTexts (places : List Nat) : Node → Node
  | .scalar kind text place =>
    if places.contains place then asText (.scalar kind text place) else .scalar kind text place
  | .sequence kind items => .sequence kind (withTextItems places items)
  | .mapping kind entries => .mapping kind (withTextEntries places entries)

/-- `withTexts` on the items of a list. -/
def withTextItems (places : List Nat) : List Node → List Node
  | [] => []
  | node :: rest => withTexts places node :: withTextItems places rest

/-- `withTexts` on keys and values. -/
def withTextEntries (places : List Nat) : List (Node × Node) → List (Node × Node)
  | [] => []
  | (key, value) :: rest =>
    (withTexts places key, withTexts places value) :: withTextEntries places rest

end

/-- The node in which default keys and their aliases are texts. -/
def settled (node : Node) : Node :=
  match textPlaces node with
  | [] => node
  | places => withTexts places node

end Node

end ActionRehearsal.Yaml
