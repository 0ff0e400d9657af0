/-!
# Lists of entries

A mapping as the list of its entries, in order. Setting a key that is present changes its value
and keeps its place; keys are compared by `==`, and the key that was set first stays. The main
statement here is that setting a key keeps the keys pairwise different.
-/

set_option autoImplicit false

namespace ActionRehearsal.Entries

variable {κ β : Type} [BEq κ]

/-- The value of a key: that of its first entry. -/
def get? (entries : List (κ × β)) (key : κ) : Option β := entries.lookup key

/-- Whether the key is present. -/
def has (entries : List (κ × β)) (key : κ) : Bool := (get? entries key).isSome

/-- The entries in which the key has the given value; a new key goes to the end. -/
def set (entries : List (κ × β)) (key : κ) (value : β) : List (κ × β) :=
  match entries with
  | [] => [(key, value)]
  | (k, v) :: rest => if k == key then (k, value) :: rest else (k, v) :: set rest key value

/-- The entries without the first one of the key. -/
def erase (entries : List (κ × β)) (key : κ) : List (κ × β) :=
  entries.eraseP fun entry => entry.1 == key

/-- The entries after setting all of a list in turn. -/
def update (entries changes : List (κ × β)) : List (κ × β) :=
  changes.foldl (fun entries change => set entries change.1 change.2) entries

/-- The entries of a list in which later ones win. -/
def ofList (changes : List (κ × β)) : List (κ × β) := update [] changes

/-! ## Distinct keys -/

variable [LawfulBEq κ]

/-- The keys after setting one: the same, or one more at the end. -/
theorem keys_set (entries : List (κ × β)) (key : κ) (value : β) :
    (set entries key value).map (·.1)
      = if (entries.map (·.1)).contains key then entries.map (·.1)
        else entries.map (·.1) ++ [key] := by
  induction entries with
  | nil => rfl
  | cons entry rest ih =>
    obtain ⟨k, v⟩ := entry
    by_cases h : k = key
    · subst h
      simp [set]
    · have h' : ¬key = k := fun e => h e.symm
      simp only [set, beq_iff_eq, h, if_false, List.map_cons, ih, List.contains_cons]
      split <;> simp_all

/-- Setting a key keeps the keys pairwise different. -/
theorem nodup_keys_set {entries : List (κ × β)} (h : (entries.map (·.1)).Nodup) (key : κ)
    (value : β) : ((set entries key value).map (·.1)).Nodup := by
  rw [keys_set]
  split
  · exact h
  · rename_i absent
    rw [List.nodup_append]
    refine ⟨h, by simp, ?_⟩
    intro k hk k' hk' e
    rw [List.mem_singleton] at hk'
    subst e hk'
    exact absent (List.contains_iff_mem.2 hk)

end ActionRehearsal.Entries
