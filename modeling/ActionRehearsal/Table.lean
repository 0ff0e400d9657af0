import ActionRehearsal.Entries
/-!
# Tables

A `Table` is a finite mapping that remembers the order in which its keys were first set: a list of
entries whose keys are pairwise different. Setting a key that is present changes its value and
keeps its place.
-/

set_option autoImplicit false

namespace ActionRehearsal

/-- An ordered mapping. -/
structure Table (κ β : Type) where
  entries : List (κ × β)
  distinct : (entries.map (·.1)).Nodup := by simp
  deriving DecidableEq

namespace Table

variable {κ β γ : Type}

/-- The table without entries. -/
def empty : Table κ β := ⟨[], by simp⟩

instance : EmptyCollection (Table κ β) := ⟨empty⟩

instance : Inhabited (Table κ β) := ⟨empty⟩

/-- The keys, in order of first setting. -/
def keys (t : Table κ β) : List κ := t.entries.map (·.1)

/-- The number of entries. -/
def size (t : Table κ β) : Nat := t.entries.length

/-- Whether there are no entries. -/
def isEmpty (t : Table κ β) : Bool := t.entries.isEmpty

/-- The table with the same keys and changed values. -/
def mapValues (f : β → γ) (t : Table κ β) : Table κ γ where
  entries := t.entries.map fun entry => (entry.1, f entry.2)
  distinct := by
    rw [List.map_map]
    exact t.distinct

/-- The entries that satisfy a condition. -/
def filter (p : κ → β → Bool) (t : Table κ β) : Table κ β where
  entries := t.entries.filter fun entry => p entry.1 entry.2
  distinct := t.distinct.sublist (List.filter_sublist.map _)

/-- The keys whose values `f` takes, with what it makes of them. -/
def filterMapValues (f : β → Option γ) (t : Table κ β) : Table κ γ where
  entries := t.entries.filterMap fun entry => (f entry.2).map fun v => (entry.1, v)
  distinct := by
    refine t.distinct.sublist ?_
    generalize t.entries = entries
    induction entries with
    | nil => exact .slnil
    | cons entry rest ih =>
      rw [List.filterMap_cons]
      cases f entry.2 with
      | none => exact .cons _ ih
      | some v => exact .cons_cons _ ih

variable [DecidableEq κ]

/-- The value of a key. -/
def get? (t : Table κ β) (key : κ) : Option β := Entries.get? t.entries key

/-- Whether the key is present. -/
def has (t : Table κ β) (key : κ) : Bool := (t.get? key).isSome

/-- The table in which the key has the given value; a new key goes to the end. -/
def set (t : Table κ β) (key : κ) (value : β) : Table κ β :=
  ⟨Entries.set t.entries key value, Entries.nodup_keys_set t.distinct key value⟩

/-- The table after setting all entries of a list in turn. -/
def update (t : Table κ β) (changes : List (κ × β)) : Table κ β :=
  changes.foldl (fun t change => t.set change.1 change.2) t

/-- The table of a list of entries, of which later ones win. -/
def ofList (changes : List (κ × β)) : Table κ β := update empty changes

/-! ## Looking up after a change -/

/-- A key has the value that it was set to. -/
theorem get?_set_self (t : Table κ β) (key : κ) (value : β) :
    (t.set key value).get? key = some value := by
  obtain ⟨entries, h⟩ := t
  simp only [set, get?, Entries.get?]
  clear h
  induction entries with
  | nil => simp [Entries.set]
  | cons entry rest ih =>
    obtain ⟨k, v⟩ := entry
    by_cases h : k = key
    · simp [Entries.set, h]
    · have h' : (key == k) = false := by simpa using fun e => h e.symm
      simp [Entries.set, h, List.lookup_cons, h', ih]

/-- Setting a key leaves the values of the others. -/
theorem get?_set_of_ne (t : Table κ β) {key other : κ} (ne : other ≠ key) (value : β) :
    (t.set key value).get? other = t.get? other := by
  obtain ⟨entries, h⟩ := t
  simp only [set, get?, Entries.get?]
  clear h
  have ne' : (other == key) = false := by simpa using ne
  induction entries with
  | nil => simp [Entries.set, List.lookup_cons, ne']
  | cons entry rest ih =>
    obtain ⟨k, v⟩ := entry
    by_cases h : k = key
    · subst h
      simp [Entries.set, List.lookup_cons, ne']
    · simp [Entries.set, h, List.lookup_cons, ih]

end Table

end ActionRehearsal
