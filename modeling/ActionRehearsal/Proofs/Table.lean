import ActionRehearsal.Table
import Mathlib.Data.List.DropRight
import Mathlib.Data.List.Induction
import Mathlib.Data.List.Infix

/-!
# What setting a key does to a table

Setting a key keeps the keys that are there, in order (`Table.keys_prefix_set`), and commutes with
taking the part of a table whose keys satisfy a condition, if the key that is set satisfies it
(`Table.filter_set`).

A table that is made by setting the entries of a list in turn is read off that list: its keys stand
in the order of their first entries (`Table.keys_ofList`), and each has the value of its last entry
(`Table.get?_ofList`). Entries whose keys are pairwise different are kept as they are, so a table is
the table of its own entries (`Table.ofList_entries`).
-/

set_option autoImplicit false

/-- What is picked from the last part of a list grows at the end with the list. -/
theorem List.filterMap_rtakeWhile_concat {α β : Type} {p : α → Bool} {last : α} (h : p last = true)
    (pick : α → Option β) (l : List α) :
    ((l ++ [last]).rtakeWhile p).filterMap pick =
      (l.rtakeWhile p).filterMap pick ++ (pick last).toList := by
  rw [List.rtakeWhile_concat_pos _ _ _ h, List.filterMap_append]
  cases picked : pick last with
  | none => simp [picked]
  | some a => simp [picked]

namespace ActionRehearsal.Entries

variable {κ β : Type} [BEq κ]

/-- A key that is not there yet goes to the end. -/
theorem set_of_absent {entries : List (κ × β)} {key : κ}
    (absent : ∀ entry ∈ entries, (entry.1 == key) = false) (value : β) :
    set entries key value = entries ++ [(key, value)] := by
  induction entries with
  | nil => rfl
  | cons entry rest ih =>
      obtain ⟨k, v⟩ := entry
      have here : (k == key) = false := absent _ List.mem_cons_self
      have later := ih fun entry mem => absent entry (List.mem_cons_of_mem _ mem)
      rw [set, here, later]
      rfl

theorem update_of_distinct {entries changes : List (κ × β)}
    (distinct : (entries ++ changes).Pairwise fun a b => (a.1 == b.1) = false) :
    update entries changes = entries ++ changes := by
  induction changes generalizing entries with
  | nil => rw [List.append_nil]; rfl
  | cons change changes ih =>
      have absent : ∀ entry ∈ entries, (entry.1 == change.1) = false := fun entry mem =>
        (List.pairwise_append.1 distinct).2.2 entry mem change List.mem_cons_self
      rw [List.append_cons] at distinct ⊢
      rw [← ih distinct, ← set_of_absent absent change.2]
      rfl

/-- Entries with different keys are kept as they are. -/
theorem ofList_of_distinct {changes : List (κ × β)}
    (distinct : changes.Pairwise fun a b => (a.1 == b.1) = false) : ofList changes = changes :=
  update_of_distinct distinct

/-- A key has no value exactly if it is the same as none. -/
theorem get?_eq_none_iff {entries : List (κ × β)} {key : κ} :
    get? entries key = none ↔ ∀ entry ∈ entries, (key == entry.1) = false := by
  rw [get?, List.lookup_eq_none_iff]
  refine forall₂_congr fun entry _ => ?_
  rw [bne, Bool.not_eq_true']

/-- If keys are the same only as themselves, this is to say that the key does not occur. -/
theorem lookup_eq_none_iff_not_mem [LawfulBEq κ] {entries : List (κ × β)} {key : κ} :
    entries.lookup key = none ↔ key ∉ entries.map (·.1) := by
  have absent : entries.lookup key = none ↔ ∀ entry ∈ entries, (key == entry.1) = false :=
    get?_eq_none_iff
  rw [absent, List.mem_map]
  constructor
  · rintro apart ⟨entry, mem, rfl⟩
    simpa using apart entry mem
  · intro missing entry mem
    rw [beq_eq_false_iff_ne]
    rintro rfl
    exact missing ⟨entry, mem, rfl⟩

theorem get?_of_absent {entries : List (κ × β)} {key : κ}
    (absent : ∀ entry ∈ entries, (key == entry.1) = false) : get? entries key = none :=
  get?_eq_none_iff.2 absent

/-- Setting a key leaves the value of another one, if no key is the same as both. -/
theorem get?_set_of_apart {key other : κ} (apart : ∀ k, (k == key) = true → (other == k) = false)
    (self : (key == key) = true) (entries : List (κ × β)) (value : β) :
    get? (set entries key value) other = get? entries other := by
  simp only [get?]
  induction entries with
  | nil => rw [set, List.lookup_cons, apart key self]
  | cons entry rest ih =>
      obtain ⟨k, v⟩ := entry
      rw [set]
      cases same : k == key with
      | true => simp [List.lookup_cons, apart k same]
      | false => simp [List.lookup_cons, ih]

/-- So does taking a key out. -/
theorem get?_erase_of_apart {key other : κ} (apart : ∀ k, (k == key) = true → (other == k) = false)
    (entries : List (κ × β)) : get? (erase entries key) other = get? entries other := by
  simp only [get?, erase]
  induction entries with
  | nil => rfl
  | cons entry rest ih =>
      obtain ⟨k, v⟩ := entry
      rw [List.eraseP_cons]
      cases same : k == key with
      | true => simp [List.lookup_cons, apart k same]
      | false => simp [List.lookup_cons, ih]

end ActionRehearsal.Entries

namespace ActionRehearsal.Table

variable {κ β : Type}

/-- A table is known by its entries. -/
@[ext]
theorem ext_entries {t u : Table κ β} (h : t.entries = u.entries) : t = u := by
  obtain ⟨entries, distinct⟩ := t
  obtain ⟨entries', distinct'⟩ := u
  obtain rfl : entries = entries' := h
  rfl

/-- The part of a table whose keys satisfy a condition that none satisfies is empty. -/
theorem filter_eq_empty {t : Table κ β} {p : κ → Bool} (h : ∀ key ∈ t.keys, p key = false) :
    (t.filter fun key _ => p key) = {} := by
  apply ext_entries
  refine List.filter_eq_nil_iff.2 fun entry mem => ?_
  simp [h entry.1 (List.mem_map_of_mem mem)]

/-- Changing the values twice. -/
theorem mapValues_mapValues {γ δ : Type} (f : β → γ) (g : γ → δ) (t : Table κ β) :
    (t.mapValues f).mapValues g = t.mapValues fun v => g (f v) :=
  ext_entries (List.map_map)

theorem mapValues_id (t : Table κ β) : (t.mapValues fun v => v) = t :=
  ext_entries (List.map_id t.entries)

variable [DecidableEq κ]

/-! ## Setting a key -/

/-- A key is missing exactly if it has no value. -/
theorem get?_eq_none_iff {t : Table κ β} {key : κ} : t.get? key = none ↔ key ∉ t.keys :=
  Entries.lookup_eq_none_iff_not_mem

/-- The keys that were there come first, in the same order. -/
theorem keys_prefix_set (t : Table κ β) (key : κ) (value : β) :
    t.keys <+: (t.set key value).keys := by
  have hkeys : (t.set key value).keys = if t.keys.contains key then t.keys else t.keys ++ [key] :=
    Entries.keys_set t.entries key value
  rw [hkeys]
  split
  · exact List.prefix_rfl
  · exact List.prefix_append _ _

/-- In a part of a table, a key that belongs to it is set as in the whole table. -/
theorem filter_set (t : Table κ β) {p : κ → Bool} {key : κ} (h : p key = true) (value : β) :
    ((t.set key value).filter fun key _ => p key) =
      (t.filter fun key _ => p key).set key value := by
  apply ext_entries
  obtain ⟨entries, distinct⟩ := t
  simp only [filter, set]
  clear distinct
  induction entries with
  | nil => simp [Entries.set, h]
  | cons entry rest ih =>
      obtain ⟨k, v⟩ := entry
      by_cases same : k = key
      · subst same
        simp [Entries.set, h]
      · cases keep : p k with
        | true => simp [Entries.set, same, keep, ih]
        | false => simp [Entries.set, same, keep, ih]

/-! ## The first entry of a kind -/

/-- An entry gives the value of its key. -/
theorem get?_of_mem {t : Table κ β} {key : κ} {value : β} (h : (key, value) ∈ t.entries) :
    t.get? key = some value := by
  obtain ⟨entries, distinct⟩ := t
  simp only [get?, Entries.get?] at h ⊢
  induction entries with
  | nil => cases h
  | cons entry rest ih =>
      obtain ⟨k, v⟩ := entry
      rw [List.map_cons, List.nodup_cons] at distinct
      rcases List.mem_cons.1 h with here | later
      · cases here
        exact List.lookup_cons_self
      · have ne : (key == k) = false := by
          rw [beq_eq_false_iff_ne]
          rintro rfl
          exact distinct.1 (List.mem_map.2 ⟨_, later, rfl⟩)
        rw [List.lookup_cons, ne]
        exact ih distinct.2 later

theorem get?_mapValues {γ : Type} (f : β → γ) (t : Table κ β) (key : κ) :
    (t.mapValues f).get? key = (t.get? key).map f := by
  simp only [get?, Entries.get?, mapValues]
  induction t.entries with
  | nil => rfl
  | cons entry rest ih =>
      rw [List.map_cons, List.lookup_cons, List.lookup_cons]
      cases key == entry.1 with
      | true => rfl
      | false => exact ih

theorem get?_filterMapValues {γ : Type} (f : β → Option γ) (t : Table κ β) (key : κ) :
    (t.filterMapValues f).get? key = (t.get? key).bind f := by
  obtain ⟨entries, distinct⟩ := t
  simp only [get?, Entries.get?, filterMapValues]
  induction entries with
  | nil => rfl
  | cons entry rest ih =>
      obtain ⟨k, v⟩ := entry
      rw [List.map_cons, List.nodup_cons] at distinct
      have later := ih distinct.2
      rw [List.lookup_cons, List.filterMap_cons]
      by_cases same : key = k
      · subst same
        cases taken : f v with
        | some u => simp [taken]
        | none =>
            -- the key is left out, and there is no other entry of it
            have absent : rest.lookup key = none := Entries.lookup_eq_none_iff_not_mem.2 distinct.1
            simpa [taken, absent] using later
      · have other : (key == k) = false := beq_false_of_ne same
        cases f v with
        | some u => simpa [List.lookup_cons, other] using later
        | none => simpa [other] using later

/-- What is left of the keys when a table is filtered. -/
theorem mem_keys_filter_iff {t : Table κ β} {p : κ → β → Bool} {key : κ} :
    key ∈ (t.filter p).keys ↔ ∃ value, t.get? key = some value ∧ p key value = true := by
  simp only [keys, filter, List.mem_map, List.mem_filter, Prod.exists]
  constructor
  · rintro ⟨k, v, ⟨mem, holds⟩, rfl⟩
    exact ⟨v, get?_of_mem mem, holds⟩
  · rintro ⟨v, found, holds⟩
    obtain ⟨before, after, split, -⟩ := List.lookup_eq_some_iff.1 found
    have mem : (key, v) ∈ t.entries := by
      rw [split]
      exact List.mem_append_right _ List.mem_cons_self
    exact ⟨key, v, ⟨mem, holds⟩, rfl⟩

/-- The value of the first entry whose key satisfies a condition is that of the first such key. -/
theorem find?_entries (t : Table κ β) (p : κ → Bool) :
    (t.entries.find? fun entry => p entry.1).map (·.2) = (t.keys.find? p).bind t.get? := by
  have hkeys : t.keys.find? p = (t.entries.find? fun entry => p entry.1).map (·.1) :=
    List.find?_map
  rw [hkeys]
  cases found : t.entries.find? fun entry => p entry.1 with
  | none => rfl
  | some entry => exact (get?_of_mem (List.mem_of_find?_eq_some found)).symm

/-! ## Tables of lists of entries -/

/-- Leaving out what came before does not change what is found first. -/
theorem find?_eraseDups (keys : List κ) (p : κ → Bool) : keys.eraseDups.find? p = keys.find? p := by
  induction keys using List.reverseRecOn with
  | nil => rfl
  | append_singleton keys key ih =>
      rw [List.eraseDups_append, List.find?_append, List.find?_append, ih, List.cons_removeAll]
      by_cases present : key ∈ keys
      · -- if the last key satisfies the condition, it was found before
        cases found : keys.find? p with
        | some first => rfl
        | none =>
            have fails := List.find?_eq_none.1 found key present
            simp [present, fails]
      · simp [present, List.eraseDups_cons]

/-- One more entry is one more setting. -/
theorem ofList_append_singleton (changes : List (κ × β)) (key : κ) (value : β) :
    ofList (changes ++ [(key, value)]) = (ofList changes).set key value := by
  simp only [ofList, update, List.foldl_append, List.foldl_cons, List.foldl_nil]

/-- The keys stand in the order of their first entries. -/
theorem keys_ofList (changes : List (κ × β)) :
    (ofList changes).keys = (changes.map (·.1)).eraseDups := by
  induction changes using List.reverseRecOn with
  | nil => rfl
  | append_singleton changes change ih =>
      obtain ⟨key, value⟩ := change
      have hkeys : ((ofList changes).set key value).keys =
          if (ofList changes).keys.contains key then (ofList changes).keys
          else (ofList changes).keys ++ [key] := Entries.keys_set _ key value
      rw [ofList_append_singleton, hkeys, ih, List.map_append, List.eraseDups_append]
      by_cases present : key ∈ changes.map (·.1)
      · simp [present, List.cons_removeAll]
      · simp [present, List.cons_removeAll, List.eraseDups_cons]

/-- Each key has the value of its last entry. -/
theorem get?_ofList (changes : List (κ × β)) (key : κ) :
    (ofList changes).get? key = changes.reverse.lookup key := by
  induction changes using List.reverseRecOn with
  | nil => rfl
  | append_singleton changes change ih =>
      obtain ⟨k, v⟩ := change
      rw [ofList_append_singleton, List.reverse_append, List.reverse_singleton,
        List.singleton_append, List.lookup_cons]
      by_cases same : key = k
      · subst same
        rw [get?_set_self, beq_self_eq_true]
      · rw [get?_set_of_ne _ same, ih, beq_false_of_ne same]

/-- So its value is that of an entry after which there is none of the same key. -/
theorem get?_ofList_eq_some_iff {changes : List (κ × β)} {key : κ} {value : β} :
    (ofList changes).get? key = some value ↔
      ∃ before after, changes = before ++ (key, value) :: after ∧ ∀ entry ∈ after, entry.1 ≠ key := by
  rw [get?_ofList, List.lookup_eq_some_iff]
  constructor
  · rintro ⟨after, before, e, other⟩
    refine ⟨before.reverse, after.reverse, ?_, ?_⟩
    · have reversed := congrArg List.reverse e
      simpa using reversed
    · intro entry mem same
      have ne := other entry (List.mem_reverse.1 mem)
      rw [bne_iff_ne] at ne
      exact ne same.symm
  · rintro ⟨before, after, rfl, other⟩
    refine ⟨after.reverse, before.reverse, by simp, ?_⟩
    intro entry mem
    rw [bne_iff_ne]
    exact fun same => other entry (List.mem_reverse.1 mem) same.symm

/-- Changes win over what was there before. -/
theorem get?_update (t : Table κ β) (changes : List (κ × β)) (key : κ) :
    (t.update changes).get? key = ((ofList changes).get? key).or (t.get? key) := by
  induction changes using List.reverseRecOn with
  | nil => rfl
  | append_singleton changes change ih =>
      obtain ⟨k, v⟩ := change
      have last : t.update (changes ++ [(k, v)]) = (t.update changes).set k v := List.foldl_append
      rw [last, ofList_append_singleton]
      by_cases same : key = k
      · subst same
        rw [get?_set_self, get?_set_self, Option.some_or]
      · rw [get?_set_of_ne _ same, get?_set_of_ne _ same, ih]

/-- The value of the first key that satisfies a condition is the last one given for the first such
key of the list. -/
theorem find?_entries_ofList (changes : List (κ × β)) (p : κ → Bool) :
    ((ofList changes).entries.find? fun entry => p entry.1).map (·.2) =
      (changes.find? fun change => p change.1).bind fun first =>
        changes.reverse.lookup first.1 := by
  have first : (changes.map (·.1)).find? p = (changes.find? fun change => p change.1).map (·.1) :=
    List.find?_map
  rw [find?_entries, keys_ofList, find?_eraseDups, first, Option.bind_map]
  congr 1
  funext change
  exact get?_ofList changes change.1

/-- Keys with values of their own are looked up as themselves. -/
theorem lookup_map_self (f : κ → β) (keys : List κ) (key : κ) :
    (keys.map fun k => (k, f k)).lookup key = if key ∈ keys then some (f key) else none := by
  induction keys with
  | nil => rfl
  | cons k keys ih =>
      rw [List.map_cons, List.lookup_cons, ih]
      by_cases same : key = k
      · subst same
        simp
      · simp [beq_false_of_ne same, same]

theorem entries_update (t : Table κ β) (changes : List (κ × β)) :
    (t.update changes).entries = Entries.update t.entries changes := by
  induction changes generalizing t with
  | nil => rfl
  | cons change changes ih => exact ih (t.set change.1 change.2)

/-- Entries whose keys are pairwise different are the entries of their table. -/
theorem entries_ofList_of_distinct {changes : List (κ × β)}
    (distinct : changes.Pairwise fun a b => a.1 ≠ b.1) : (ofList changes).entries = changes :=
  (entries_update empty changes).trans
    (Entries.ofList_of_distinct (distinct.imp fun ne => beq_false_of_ne ne))

/-- A table is the table of its own entries. -/
theorem ofList_entries (t : Table κ β) : ofList t.entries = t :=
  ext_entries (entries_ofList_of_distinct (List.pairwise_map.1 t.distinct))

/-- The values may be changed before a key is set or after it. -/
theorem mapValues_set {γ : Type} (f : β → γ) (t : Table κ β) (key : κ) (value : β) :
    (t.set key value).mapValues f = (t.mapValues f).set key (f value) := by
  apply ext_entries
  simp only [mapValues, set]
  induction t.entries with
  | nil => rfl
  | cons entry rest ih =>
      obtain ⟨k, v⟩ := entry
      simp only [Entries.set, List.map_cons]
      split
      · rfl
      · rw [List.map_cons, ih]

theorem mapValues_ofList {γ : Type} (f : β → γ) (changes : List (κ × β)) :
    (ofList changes).mapValues f = ofList (changes.map fun change => (change.1, f change.2)) := by
  induction changes using List.reverseRecOn with
  | nil => rfl
  | append_singleton changes change ih =>
      rw [List.map_append, List.map_singleton, ofList_append_singleton, ofList_append_singleton,
        mapValues_set, ih]

/-- What a table of a list of entries holds are some of those entries. -/
theorem mem_of_mem_ofList {changes : List (κ × β)} {entry : κ × β}
    (mem : entry ∈ (ofList changes).entries) : entry ∈ changes := by
  have found := get?_of_mem mem
  rw [get?_ofList, List.lookup_eq_some_iff] at found
  obtain ⟨before, rest, split, -⟩ := found
  have last : entry ∈ changes.reverse := by
    rw [split]
    exact List.mem_append_right _ List.mem_cons_self
  exact List.mem_reverse.1 last

end ActionRehearsal.Table
