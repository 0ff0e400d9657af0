import ActionRehearsal.Yaml.Reading

/-!
# Where reading breaks down

Most faults of a YAML text make it malformed. At the others reading breaks down
(`Fault.isBreakdown`). Once a text has been read as a document, these are faults of scalars.
`Node.IsPart` says that a node stands somewhere in another one, and the main statement,
`exists_part_of_valueOfText`, is that such a fault is always that of a node of the document that is
read as a boolean, a number, a date or a time. Merged entries do not spoil this, since they stand in
the document as well (`Node.isPart_of_merged`).
-/

set_option autoImplicit false

namespace ActionRehearsal.Yaml

/-- Whether reading breaks down at a fault, which then is none of a malformed text. -/
def Fault.isBreakdown : Fault → Bool
  | .malformed _ => false
  | .breakdown _ => true

/-- The kinds of scalars that have a form: booleans, numbers, dates and times. -/
def Kind.formed : List Kind := [.bool, .int, .float, .timestamp]

/-- Scalars of all other kinds have a value or are malformed. -/
theorem kind_mem_of_scalarValueIn {node : Node} {kind : Kind} {text : String} {fault : Fault}
    (h : node.scalarValueIn kind text = .error fault) (breaks : fault.isBreakdown = true) :
    kind ∈ Kind.formed := by
  cases kind with
  | bool | int | float | timestamp => decide
  | binary =>
      simp only [Node.scalarValueIn, scalarValue, binaryValue] at h
      split at h
      · split at h
        · cases h
        · cases h
          cases breaks
      · cases h
        cases breaks
  | null | text => cases h
  | sequence | mapping | set | orderedMap | pairs | merge | defaultValue | unknown =>
      cases h
      cases breaks

/-! ## Parts side by side -/

theorem exists_of_bind_eq_ok {α β ε : Type} {made : Except ε α} {next : α → Except ε β} {result : β}
    (h : made >>= next = .ok result) : ∃ a, made = .ok a ∧ next a = .ok result := by
  cases made with
  | error e => cases h
  | ok a => exact ⟨a, rfl, h⟩

theorem eq_error_of_bind {α β ε : Type} {made : Except ε α} {next : α → Except ε β} {e : ε}
    (h : made >>= next = .error e) : made = .error e ∨ ∃ a, made = .ok a ∧ next a = .error e := by
  cases made with
  | error e' =>
      cases h
      exact .inl rfl
  | ok a => exact .inr ⟨a, rfl, h⟩

theorem exists_of_mapError_eq_error {α ε ε' : Type} {made : Except ε α} {f : ε → ε'} {e' : ε'}
    (h : made.mapError f = .error e') : ∃ e, made = .error e ∧ f e = e' := by
  cases made with
  | error e => exact ⟨e, rfl, Except.error.inj h⟩
  | ok a => cases h

/-- What a list of results holds was made from one of the items. -/
theorem exists_of_mem_mapM {α β ε : Type} {f : α → Except ε β} {items : List α} {results : List β}
    (h : items.mapM f = .ok results) {result : β} (mem : result ∈ results) :
    ∃ item ∈ items, f item = .ok result := by
  induction items generalizing results with
  | nil =>
      rw [List.mapM_nil] at h
      cases h
      cases mem
  | cons item items ih =>
      rw [List.mapM_cons] at h
      obtain ⟨made, first, h⟩ := exists_of_bind_eq_ok h
      obtain ⟨rest, others, h⟩ := exists_of_bind_eq_ok h
      cases h
      rcases List.mem_cons.1 mem with rfl | later
      · exact ⟨item, List.mem_cons_self, first⟩
      · obtain ⟨item', mem', made'⟩ := ih others later
        exact ⟨item', List.mem_cons_of_mem _ mem', made'⟩

namespace Built

variable {α β : Type}

theorem both_eq_error {a : Built α} {b : Built β} {flaw : Flaw} (h : both a b = .error flaw) :
    a = .error flaw ∨ b = .error flaw := by
  cases a with
  | ok a =>
      cases b with
      | ok b => cases h
      | error f =>
          cases h
          exact .inr rfl
  | error e =>
      cases b with
      | ok b =>
          cases h
          exact .inl rfl
      | error f =>
          -- of two flaws that of the lesser depth is kept
          simp only [both] at h
          split at h
          · cases h
            exact .inr rfl
          · cases h
            exact .inl rfl

theorem map_eq_error {a : Built α} {f : α → β} {flaw : Flaw} (h : a.map f = .error flaw) :
    a = .error flaw := by
  cases a with
  | ok a => cases h
  | error e =>
      cases h
      rfl

/-- The flaw of parts side by side is that of one of them. -/
theorem mem_of_all_eq_error {parts : List (Built α)} {flaw : Flaw} (h : all parts = .error flaw) :
    .error flaw ∈ parts := by
  induction parts with
  | nil => cases h
  | cons part rest ih =>
      rcases both_eq_error (map_eq_error h) with here | later
      · rw [here]
        exact List.mem_cons_self
      · exact List.mem_cons_of_mem _ (ih later)

end Built

namespace Node

/-! ## Nodes in nodes -/

/-- Whether a node stands somewhere in another one, which may be that node itself. -/
inductive IsPart (part : Node) : Node → Prop
  | refl : IsPart part part
  | item {kind : Kind} {items : List Node} {item : Node} (mem : item ∈ items)
      (h : IsPart part item) : IsPart part (.sequence kind items)
  | key {kind : Kind} {entries : List (Node × Node)} {entry : Node × Node} (mem : entry ∈ entries)
      (h : IsPart part entry.1) : IsPart part (.mapping kind entries)
  | value {kind : Kind} {entries : List (Node × Node)} {entry : Node × Node} (mem : entry ∈ entries)
      (h : IsPart part entry.2) : IsPart part (.mapping kind entries)

theorem IsPart.trans {part inner node : Node} (h : IsPart part inner) (g : IsPart inner node) :
    IsPart part node := by
  induction g with
  | refl => exact h
  | item mem _ ih => exact .item mem ih
  | key mem _ ih => exact .key mem ih
  | value mem _ ih => exact .value mem ih

/-- Keys and values of merged entries stand in the value of the merge key, and those of a mapping
with its merge keys replaced stand in the mapping. -/
theorem isPart_of_merged (room : Nat) :
    (∀ value merged, mergedEntries room value = .ok merged →
      ∀ entry ∈ merged, IsPart entry.1 value ∧ IsPart entry.2 value) ∧
    ∀ kind entries flat, flattened room entries = .ok flat →
      ∀ entry ∈ flat, IsPart entry.1 (.mapping kind entries) ∧
        IsPart entry.2 (.mapping kind entries) := by
  -- the two functions call each other, each with less room, so both are shown at once
  induction room with
  | zero =>
      constructor
      · intro value merged h
        rw [mergedEntries] at h
        cases h
      · intro kind entries flat h
        rw [flattened] at h
        cases h
  | succ room ih =>
      constructor
      · intro value merged h entry mem
        cases value with
        | scalar kind text place =>
            simp only [mergedEntries] at h
            cases h
        | mapping kind entries =>
            rw [mergedEntries] at h
            exact ih.2 kind entries merged h entry mem
        | sequence kind items =>
            simp only [mergedEntries] at h
            obtain ⟨parts, hparts, h⟩ := exists_of_bind_eq_ok h
            cases h
            obtain ⟨part, hpart, mem⟩ := List.mem_flatten.1 mem
            obtain ⟨item, hitem, made⟩ := exists_of_mem_mapM hparts (List.mem_reverse.1 hpart)
            cases item with
            | scalar | sequence => cases made
            | mapping kind entries =>
                obtain ⟨first, second⟩ := ih.2 kind entries part made entry mem
                exact ⟨.item hitem first, .item hitem second⟩
      · intro kind entries flat h entry mem
        simp only [flattened] at h
        obtain ⟨merged, hmerged, h⟩ := exists_of_bind_eq_ok h
        cases h
        -- an entry was merged from what a merge key names, or it is one of the mapping's own
        rcases List.mem_append.1 mem with named | own
        · obtain ⟨list, hlist, mem⟩ := List.mem_flatten.1 named
          obtain ⟨merge, hmerge, made⟩ := exists_of_mem_mapM hmerged hlist
          obtain ⟨first, second⟩ := ih.1 merge.2 list made entry mem
          have here : merge ∈ entries := (List.mem_filter.1 hmerge).1
          exact ⟨.value here first, .value here second⟩
        · have here : entry ∈ entries := (List.mem_filter.1 own).1
          exact ⟨.key here .refl, .value here .refl⟩

/-! ## Building -/

/-- Whether the scalar at a node, read as the node is tagged, has no value for a reason. -/
def HasFault (part : Node) (fault : Fault) : Prop :=
  ∃ text place, scalarText? part.height part = some (text, place) ∧
    part.scalarValueIn part.kind text = .error fault

/-- Such a scalar is of one of the four kinds, if it is not malformed. -/
theorem HasFault.kind_mem {part : Node} {fault : Fault} (h : part.HasFault fault)
    (breaks : fault.isBreakdown = true) : part.kind ∈ Kind.formed := by
  obtain ⟨text, place, -, no_value⟩ := h
  exact kind_mem_of_scalarValueIn no_value breaks

/-- A key counts as text if it is a mark, and then nothing is wrong with it; else it is itself. -/
theorem isPart_of_asText {key part : Node} {fault : Fault} (h : IsPart part (asText key))
    (hfault : HasFault part fault) : IsPart part key := by
  cases key with
  | sequence kind items => exact h
  | mapping kind entries => exact h
  | scalar kind text place =>
      by_cases mark : kind = .defaultValue
      · subst mark
        cases h
        obtain ⟨text', place', -, no_value⟩ := hfault
        cases no_value
      · have same : asText (.scalar kind text place) = .scalar kind text place := by
          cases kind with
          | defaultValue => exact absurd rfl mark
          | _ => rfl
        rwa [same] at h

/-- A key, built at a depth. -/
def keyBuilt (room depth : Nat) (key : Node) : Built Scalar :=
  if key.isCollection then Built.malformed depth .unhashableKey
  else keyOf depth (build room depth key)

/-- The entries of a mapping, built at a depth. -/
def entriesBuilt (room depth : Nat) : Node → Built (List (Scalar × Value))
  | .mapping kind entries =>
    match flattened (2 * (Node.mapping kind entries).height) entries with
    | .error cause => .malformed depth cause
    | .ok entries => Built.all (entries.map fun (key, value) =>
        Built.both (keyBuilt room depth (asText key)) (build room depth value))
  | _ => .malformed depth .wrongKind

/-- A mapping with one entry as a pair, built at a depth. -/
def pairBuilt (room depth : Nat) : Node → Built Value
  | .mapping _ [(key, value)] =>
    (Built.both (build room depth key) (build room depth value)).map fun found =>
      Value.tuple [found.1, found.2]
  | _ => .malformed depth .wrongKind

/-- A node is built from its keys, entries and pairs, which are built one deeper. -/
theorem build_succ (room depth : Nat) (node : Node) :
    build (room + 1) depth node =
      match node.kind, node with
      | .sequence, .sequence _ items =>
        (Built.all (items.map (build room (depth + 1)))).map .list
      | .mapping, node => (entriesBuilt room (depth + 1) node).map Value.mapOfEntries
      | .set, node => (entriesBuilt room (depth + 1) node).map fun entries =>
        Value.setOfMembers (entries.map (·.1))
      | .orderedMap, .sequence _ items =>
        (Built.all (items.map (pairBuilt room (depth + 1)))).map .list
      | .pairs, .sequence _ items =>
        (Built.all (items.map (pairBuilt room (depth + 1)))).map .list
      | .sequence, _ | .orderedMap, _ | .pairs, _ => .malformed (depth + 1) .wrongKind
      | _, node => scalarBuilt depth node := by
  cases node with
  | scalar kind text place => cases kind <;> rfl
  | sequence kind items => cases kind <;> rfl
  | mapping kind entries => cases kind <;> rfl

/-- Whether some part of a node is a scalar that has no value for a reason. -/
def FaultIn (node : Node) (fault : Fault) : Prop := ∃ part, IsPart part node ∧ HasFault part fault

theorem FaultIn.mono {inner node : Node} {fault : Fault} (h : FaultIn inner fault)
    (inside : IsPart inner node) : FaultIn node fault := by
  obtain ⟨part, hpart, hfault⟩ := h
  exact ⟨part, hpart.trans inside, hfault⟩

theorem faultIn_of_scalarBuilt {depth : Nat} {node : Node} {flaw : Flaw}
    (h : scalarBuilt depth node = .error flaw) (breaks : flaw.fault.isBreakdown = true) :
    FaultIn node flaw.fault := by
  refine ⟨node, .refl, ?_⟩
  simp only [scalarBuilt] at h
  split at h
  · cases h
    cases breaks
  · cases h
    cases breaks
  · cases h
    cases breaks
  · split at h
    · cases h
      cases breaks
    · rename_i text place found
      refine ⟨text, place, found, ?_⟩
      cases value : node.scalarValueIn node.kind text with
      | ok v =>
          rw [value] at h
          cases h
      | error fault =>
          rw [value] at h
          cases h
          rfl

/-- A sequence has the fault of one of its items, however they are built. -/
theorem faultIn_of_items {kind : Kind} {items : List Node} {make : Node → Built Value}
    {flaw : Flaw} (h : (Built.all (items.map make)).map Value.list = .error flaw)
    (made : ∀ item, make item = .error flaw → FaultIn item flaw.fault) :
    FaultIn (.sequence kind items) flaw.fault := by
  obtain ⟨item, mem, failed⟩ := List.mem_map.1 (Built.mem_of_all_eq_error (Built.map_eq_error h))
  exact (made item failed).mono (.item mem .refl)

section Inside

variable {room : Nat}
  (ih : ∀ {depth : Nat} {node : Node} {flaw : Flaw}, build room depth node = .error flaw →
    flaw.fault.isBreakdown = true → FaultIn node flaw.fault)
include ih

theorem faultIn_of_keyBuilt {depth : Nat} {key : Node} {flaw : Flaw}
    (h : keyBuilt room depth key = .error flaw) (breaks : flaw.fault.isBreakdown = true) :
    FaultIn key flaw.fault := by
  rw [keyBuilt] at h
  split at h
  · cases h
    cases breaks
  · cases built : build room depth key with
    | error flaw' =>
        rw [built] at h
        cases h
        exact ih built breaks
    | ok value =>
        rw [built] at h
        cases value with
        | scalar s => cases h
        | list | map | tuple | set =>
            cases h
            cases breaks

theorem faultIn_of_entriesBuilt {depth : Nat} {node : Node} {flaw : Flaw}
    (h : entriesBuilt room depth node = .error flaw) (breaks : flaw.fault.isBreakdown = true) :
    FaultIn node flaw.fault := by
  cases node with
  | scalar | sequence =>
      cases h
      cases breaks
  | mapping kind entries =>
      rw [entriesBuilt] at h
      split at h
      · cases h
        cases breaks
      · rename_i flat hflat
        obtain ⟨⟨key, value⟩, mem, failed⟩ := List.mem_map.1 (Built.mem_of_all_eq_error h)
        obtain ⟨key_part, value_part⟩ := (isPart_of_merged _).2 kind entries flat hflat _ mem
        rcases Built.both_eq_error failed with hkey | hvalue
        · obtain ⟨part, inside, hfault⟩ := faultIn_of_keyBuilt ih hkey breaks
          exact ⟨part, (isPart_of_asText inside hfault).trans key_part, hfault⟩
        · exact (ih hvalue breaks).mono value_part

theorem faultIn_of_pairBuilt {depth : Nat} {node : Node} {flaw : Flaw}
    (h : pairBuilt room depth node = .error flaw) (breaks : flaw.fault.isBreakdown = true) :
    FaultIn node flaw.fault := by
  simp only [pairBuilt] at h
  split at h
  · rcases Built.both_eq_error (Built.map_eq_error h) with hkey | hvalue
    · exact (ih hkey breaks).mono (.key List.mem_cons_self .refl)
    · exact (ih hvalue breaks).mono (.value List.mem_cons_self .refl)
  · cases h
    cases breaks

end Inside

/-- What is wrong with a node, if it is not malformed, is wrong with a scalar in it. -/
theorem faultIn_of_build {room depth : Nat} {node : Node} {flaw : Flaw}
    (h : build room depth node = .error flaw) (breaks : flaw.fault.isBreakdown = true) :
    FaultIn node flaw.fault := by
  induction room generalizing depth node flaw with
  | zero =>
      -- without room every node counts as malformed
      cases h
      cases breaks
  | succ room ih =>
      rw [build_succ] at h
      split at h
      · exact faultIn_of_items h fun item failed => ih failed breaks
      · exact faultIn_of_entriesBuilt ih (Built.map_eq_error h) breaks
      · exact faultIn_of_entriesBuilt ih (Built.map_eq_error h) breaks
      · exact faultIn_of_items h fun item failed => faultIn_of_pairBuilt ih failed breaks
      · exact faultIn_of_items h fun item failed => faultIn_of_pairBuilt ih failed breaks
      · cases h
        cases breaks
      · cases h
        cases breaks
      · cases h
        cases breaks
      · exact faultIn_of_scalarBuilt h breaks

end Node

/-- Whether a text is the document of a node. -/
def IsDocument [Platform] (text : String) (node : Node) : Prop :=
  Node.ofTokens (Layout.scanned text.toList) = .ok (some node)

/-- **Reading a text breaks down before there is a document, or at some boolean, number, date or time
in it that is none.** -/
theorem exists_part_of_valueOfText [Platform] {text : String} {fault : Fault}
    (h : valueOfText text = .error fault) (breaks : fault.isBreakdown = true) :
    Node.ofTokens (Layout.scanned text.toList) = .error fault ∨
      ∃ node part, IsDocument text node ∧ Node.IsPart part node.settled ∧
        part.kind ∈ Kind.formed ∧ part.HasFault fault := by
  rw [valueOfText] at h
  rcases eq_error_of_bind h with unparsed | ⟨document, parsed, h⟩
  · exact .inl unparsed
  · cases document with
    | none => cases h
    | some node =>
        obtain ⟨flaw, built, rfl⟩ := exists_of_mapError_eq_error h
        obtain ⟨part, inside, hfault⟩ := Node.faultIn_of_build built breaks
        exact .inr ⟨node, part, parsed, inside, hfault.kind_mem breaks, hfault⟩

end ActionRehearsal.Yaml
