import ActionRehearsal.Proofs.Table
import ActionRehearsal.Schema.Check

/-!
# What checks accept

One statement for each way of putting checks together, about when the whole is read and as what:
two checks side by side (`Checked.both_eq_ok_iff`), all checks of a list (`Checked.all_eq_ok_iff`), the
items of a list, the entries of a table, the fields of a record (`recordOf_eq_ok_iff`). Later proofs
use these statements and never open a check.

The keys of a table are read as texts, so two keys of a mapping may give the same one; `named?` is the
value that counts then (`get?_of_tableOf`).
-/

set_option autoImplicit false

namespace ActionRehearsal

/-- A text is the same key as itself alone. -/
theorem Scalar.text_beq (s : String) (k : Scalar) : (Scalar.text s == k) = decide (Scalar.text s = k) := by
  have same : (Scalar.text s == k) = Scalar.sameKey (.text s) k := rfl
  rw [same]
  cases k with
  | float x =>
      simp only [Scalar.sameKey, Scalar.asBinary64?]
      cases x.toInt? with
      | none => rfl
      | some n => rfl
  | _ => rfl

theorem Calendar.Moment.same_comm (a b : Calendar.Moment) : a.same b = b.same a := by
  rw [Moment.same, Moment.same]
  cases a.offset with
  | none =>
      cases b.offset with
      | none => exact Bool.beq_comm
      | some q => rfl
  | some p =>
      cases b.offset with
      | none => rfl
      | some q => exact Bool.beq_comm

/-- Two scalars are the same key in either order. -/
theorem Scalar.beq_comm (a b : Scalar) : (a == b) = (b == a) := by
  show sameKey a b = sameKey b a
  by_cases moments : ∃ p q, a = .moment p ∧ b = .moment q
  · obtain ⟨p, q, rfl, rfl⟩ := moments
    exact Calendar.Moment.same_comm p q
  · -- otherwise they are compared as numbers, or as they stand if neither is one
    rw [sameKey, sameKey]
    · rcases a.asBinary64? with _ | m | x
      · rcases b.asBinary64? with _ | n | y
        · exact decide_eq_decide.2 eq_comm
        · rfl
        · rfl
      · rcases b.asBinary64? with _ | n | y
        · rfl
        · exact Bool.beq_comm
        · rfl
      · rcases b.asBinary64? with _ | n | y
        · rfl
        · rfl
        · exact Bool.beq_comm
    · exact fun p q e e' => moments ⟨q, p, e', e⟩
    · exact fun p q e e' => moments ⟨p, q, e, e'⟩

/-- So a text is the same key as itself alone on the other side too. -/
theorem Scalar.beq_text (k : Scalar) (s : String) : (k == Scalar.text s) = decide (k = Scalar.text s) := by
  rw [Scalar.beq_comm, Scalar.text_beq]
  exact decide_eq_decide.2 eq_comm

namespace Schema

variable {α β : Type}

/-! ## Checks side by side -/

namespace Checked

theorem both_eq_ok_iff {a : Checked α} {b : Checked β} {found : α × β} :
    both a b = .ok found ↔ a = .ok found.1 ∧ b = .ok found.2 := by
  obtain ⟨x, y⟩ := found
  cases a with
  | ok a =>
      cases b with
      | ok b => simp [both]
      | error q => simp [both]
  | error p =>
      cases b with
      | ok b => simp [both]
      | error q => simp [both]

theorem map_eq_ok_iff {ε : Type} {made : Except ε α} {f : α → β} {y : β} :
    made.map f = .ok y ↔ ∃ x, made = .ok x ∧ f x = y := by
  cases made with
  | ok a => simp [Except.map]
  | error e => simp [Except.map]

theorem inside_eq_ok_iff {place : String} {check : Checked α} {a : α} :
    check.inside place = .ok a ↔ check = .ok a := by
  cases check with
  | ok a => simp [inside, Except.mapError]
  | error p => simp [inside, Except.mapError]

theorem andThen_eq_ok_iff {a : Checked α} {next : α → Checked β} {y : β} :
    a.andThen next = .ok y ↔ ∃ x, a = .ok x ∧ next x = .ok y := by
  cases a with
  | ok a => simp [andThen]
  | error p => simp [andThen]

/-- A list of checks is read if each of them is. -/
theorem all_eq_ok_iff {checks : List (Checked α)} {found : List α} :
    all checks = .ok found ↔ checks = found.map .ok := by
  induction checks generalizing found with
  | nil => simp [all, eq_comm]
  | cons check checks ih =>
      rw [all, map_eq_ok_iff]
      constructor
      · rintro ⟨⟨first, rest⟩, read, rfl⟩
        obtain ⟨here, later⟩ := both_eq_ok_iff.1 read
        rw [List.map_cons, ← ih.1 later, ← here]
      · intro e
        cases found with
        | nil => cases e
        | cons first rest =>
            obtain ⟨here, later⟩ := List.cons_eq_cons.1 e
            exact ⟨(first, rest), both_eq_ok_iff.2 ⟨here, ih.2 later⟩, rfl⟩

/-- If all checks of a list pass, so does the one of each item. -/
theorem exists_eq_ok_of_all {check : β → Checked α} {items : List β} {found : List α}
    (read : all (items.map check) = .ok found) {item : β} (mem : item ∈ items) :
    ∃ a, check item = .ok a := by
  have here : check item ∈ items.map check := List.mem_map_of_mem mem
  rw [all_eq_ok_iff.1 read, List.mem_map] at here
  obtain ⟨a, -, same⟩ := here
  exact ⟨a, same.symm⟩

end Checked

open Checked

/-! ## Collections -/

section Collections

variable {check : Value → Checked α}

theorem optional_eq_ok_iff {v : Value} {found : Option α} :
    optional check v = .ok found ↔
      (v = .null ∧ found = none) ∨ v ≠ .null ∧ ∃ a, check v = .ok a ∧ found = some a := by
  unfold optional
  split
  · simp [eq_comm]
  · rename_i given
    have ne : v ≠ .null := given
    rw [map_eq_ok_iff]
    simp only [ne, false_and, ne_eq, not_false_eq_true, true_and, false_or]
    exact exists_congr fun a => and_congr_right' eq_comm

/-- The places of the items do not matter for what is read. -/
theorem itemsFrom_eq_iff {n : Nat} {items : List Value} {found : List α} :
    itemsFrom check n items = found.map .ok ↔ items.map check = found.map .ok := by
  induction items generalizing n found with
  | nil => rw [itemsFrom, List.map_nil]
  | cons item items ih =>
      cases found with
      | nil => simp [itemsFrom]
      | cons first rest =>
          rw [itemsFrom, List.map_cons, List.map_cons, List.cons_eq_cons, List.cons_eq_cons,
            inside_eq_ok_iff, ih]

theorem listOf_list_eq_ok_iff {items : List Value} {found : List α} :
    listOf check (.list items) = .ok found ↔ items.map check = found.map .ok := by
  rw [listOf, all_eq_ok_iff, itemsFrom_eq_iff]

/-- What is read of a list was read item by item. -/
theorem exists_of_mem_listOf {v : Value} {found : List α} (h : listOf check v = .ok found) {a : α}
    (mem : a ∈ found) : ∃ item, check item = .ok a := by
  have read : ∀ items, all (itemsFrom check 0 items) = .ok found → ∃ item, check item = .ok a := by
    intro items h
    have same := itemsFrom_eq_iff.1 (all_eq_ok_iff.1 h)
    have here : .ok a ∈ items.map check := by
      rw [same]
      exact List.mem_map_of_mem mem
    obtain ⟨item, -, read⟩ := List.mem_map.1 here
    exact ⟨item, read⟩
  cases v with
  | list items => exact read items h
  | tuple items => exact read items h
  | set members => exact read _ h
  | scalar | map => cases h

/-- A table is read if each key is read as a text and each value as the check says. -/
theorem tableOf_map_eq_ok_iff {entries : Mapping} {t : Table String α} :
    tableOf check (.map entries) = .ok t ↔
      ∃ found : List (String × α),
        (entries.map fun entry => both (text (.scalar entry.1)) (check entry.2)) = found.map .ok ∧
          Table.ofList found = t := by
  rw [tableOf, map_eq_ok_iff]
  refine exists_congr fun found => and_congr_left' ?_
  rw [all_eq_ok_iff]
  -- again the places do not matter
  induction entries generalizing found with
  | nil => rfl
  | cons entry entries ih =>
      cases found with
      | nil => simp
      | cons first rest =>
          rw [List.map_cons, List.map_cons, List.map_cons, List.cons_eq_cons, List.cons_eq_cons, ih,
            both_eq_ok_iff, both_eq_ok_iff, inside_eq_ok_iff, inside_eq_ok_iff, inside_eq_ok_iff]

/-- Only a mapping is read as a table. -/
theorem exists_entries_of_tableOf {v : Value} {t : Table String α} (h : tableOf check v = .ok t) :
    ∃ entries, v = .map entries := by
  cases v with
  | map entries => exact ⟨entries, rfl⟩
  | scalar | list | tuple | set => cases h

/-- What is read of a table was read entry by entry. -/
theorem exists_of_mem_tableOf {v : Value} {t : Table String α} (h : tableOf check v = .ok t)
    {entry : String × α} (mem : entry ∈ t.entries) : ∃ item, check item = .ok entry.2 := by
  obtain ⟨entries, rfl⟩ := exists_entries_of_tableOf h
  obtain ⟨found, same, rfl⟩ := tableOf_map_eq_ok_iff.1 h
  have here : .ok entry ∈ entries.map fun entry => both (text (.scalar entry.1)) (check entry.2) := by
    rw [same]
    exact List.mem_map_of_mem (Table.mem_of_mem_ofList mem)
  obtain ⟨item, -, read⟩ := List.mem_map.1 here
  exact ⟨item.2, (both_eq_ok_iff.1 read).2⟩

/-- The value of a mapping under a name, if its keys are read as texts: that of the last such key. -/
def named? (entries : Mapping) (name : String) : Option Value :=
  (entries.reverse.find? fun entry => text (.scalar entry.1) == .ok name).map (·.2)

/-- A table has under a name what the check reads in the value that counts. -/
theorem get?_of_tableOf {entries : Mapping} {t : Table String α}
    (h : tableOf check (.map entries) = .ok t) (name : String) :
    (t.get? name).map Except.ok = (named? entries name).map check := by
  obtain ⟨found, same, rfl⟩ := tableOf_map_eq_ok_iff.1 h
  rw [Table.get?_ofList, named?]
  -- from here on both lists are read from their ends
  have same' := congrArg List.reverse same
  rw [← List.map_reverse, ← List.map_reverse] at same'
  clear h same
  generalize entries.reverse = entries at same' ⊢
  generalize found.reverse = found at same' ⊢
  induction found generalizing entries with
  | nil =>
      rw [List.map_nil, List.map_eq_nil_iff] at same'
      rw [same']
      rfl
  | cons first rest ih =>
      cases entries with
      | nil => cases same'
      | cons entry entries =>
          obtain ⟨here, later⟩ := List.cons_eq_cons.1 same'
          obtain ⟨key, value⟩ := both_eq_ok_iff.1 here
          rw [List.lookup_cons, List.find?_cons, key]
          by_cases e : name = first.1
          · subst e
            rw [beq_self_eq_true, beq_self_eq_true]
            exact congrArg some value.symm
          · have other : (Except.ok first.1 : Checked String) ≠ .ok name := fun same =>
              e (Except.ok.inj same).symm
            rw [beq_false_of_ne e, beq_false_of_ne other]
            exact ih entries later

end Collections

/-! ## Records -/

theorem recordOf_eq_ok_iff {model : String} {fields : List (List String)}
    {check : Mapping → Checked α} {v : Value} {noted : Noted α} :
    recordOf model fields check v = .ok noted ↔
      ∃ entries, v = .map entries ∧ check entries = .ok noted.content ∧
        extras entries fields = .ok noted.extra := by
  obtain ⟨content, extra⟩ := noted
  cases v with
  | map entries =>
      rw [recordOf, map_eq_ok_iff]
      constructor
      · rintro ⟨found, read, e⟩
        cases e
        obtain ⟨here, others⟩ := both_eq_ok_iff.1 read
        exact ⟨entries, rfl, here, others⟩
      · rintro ⟨entries', e, here, others⟩
        cases e
        exact ⟨(content, extra), both_eq_ok_iff.2 ⟨here, others⟩, rfl⟩
  | scalar | list | tuple | set =>
      constructor
      · intro h
        cases h
      · rintro ⟨entries, e, -⟩
        cases e

theorem given?_singleton (entries : Mapping) (name : String) :
    given? entries [name] = (Entries.get? entries (.text name)).map fun v => (name, v) := by
  rw [given?]
  cases Entries.get? entries (.text name) with
  | none => rfl
  | some v => rfl

/-- A field is read in the value under the first of its names that is given, or else has its default. -/
theorem field_eq_ok_iff {entries : Mapping} {names : List String} {default : α}
    {check : Value → Checked α} {a : α} :
    field entries names default check = .ok a ↔
      match given? entries names with
      | some (_, v) => check v = .ok a
      | none => default = a := by
  rw [field]
  cases given? entries names with
  | none => simp
  | some given => exact inside_eq_ok_iff

/-- What a field is read as has a property, if the default and all that the check reads have it. -/
theorem of_field {entries : Mapping} {names : List String} {default : α} {check : Value → Checked α}
    {a : α} (h : field entries names default check = .ok a) {p : α → Prop} (absent : p default)
    (read : ∀ v a, check v = .ok a → p a) : p a := by
  have h := field_eq_ok_iff.1 h
  split at h
  · exact read _ a h
  · exact h ▸ absent

end Schema

end ActionRehearsal
