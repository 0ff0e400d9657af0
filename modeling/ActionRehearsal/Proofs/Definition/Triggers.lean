import ActionRehearsal.Proofs.Definition.JobMatrix
import ActionRehearsal.Proofs.Definition.Widening

/-!
# The spelling of triggers

The triggers of a workflow may stand under `on` or under the boolean true, before, after or between the
other entries, and a name or a list of names may stand for a mapping. None of this matters for what is
read: the outcome of a reading is made of the other entries and of what is read of the triggers
(`alike_workflow_of_triggers`), and that is the same for all spellings of them (`triggers_eq`).

The main statement is `ofMapping_respelled`. It is about definitions and errors alike, since the problems
of the other entries are found in the same order wherever the triggers stand.
-/

set_option autoImplicit false

namespace ActionRehearsal

open ActionRehearsal.Schema Schema.Checked

/-! ## Spellings -/

/-- Whether no entry of a mapping can be taken for the triggers of a workflow: none has the key `on`, and
none a key that is the same as the boolean true. -/
structure HasNoTriggers (others : Mapping) : Prop where
  not_on : ∀ entry ∈ others, entry.1 ≠ .text "on"
  not_true : ∀ entry ∈ others, (entry.1 == Scalar.bool true) = false

/-- Whether a mapping gives triggers besides other entries: under `on` or under the boolean true, and
anywhere among them. -/
inductive GivesTriggers (v : Value) : Mapping → Mapping → Prop where
  | underName (before after : Mapping) :
      GivesTriggers v (before ++ after) (before ++ (.text "on", v) :: after)
  | underTrue (before after : Mapping) :
      GivesTriggers v (before ++ after) (before ++ (.bool true, v) :: after)

/-- Whether the first value spells the same triggers as the second: it is the same one, or a name or a list
of names for the mapping of each of the names to null. A name that is repeated counts where it stands
first. -/
inductive Spelled : Value → Value → Prop where
  | same (v : Value) : Spelled v v
  | name (event : String) : Spelled (.text event) (.map [(.text event, .null)])
  | names (events : List String) : Spelled (.list (events.map Value.text))
      (.map (events.eraseDups.map fun event => (.text event, .null)))

/-! ## Entries -/

namespace Entries

variable {κ β : Type} [BEq κ]

/-- An entry of another key is passed over. -/
theorem get?_append_cons_of_ne {key other : κ} (ne : (key == other) = false) (before after : List (κ × β))
    (v : β) : get? (before ++ (other, v) :: after) key = get? (before ++ after) key := by
  rw [get?, get?, List.lookup_append, List.lookup_append, List.lookup_cons, ne]

/-- An entry is found under a key that is the same as its own, if none before it has such a key. -/
theorem get?_append_cons_of_beq {key own : κ} (same : (key == own) = true) {before : List (κ × β)}
    (absent : ∀ entry ∈ before, (key == entry.1) = false) (v : β) (after : List (κ × β)) :
    get? (before ++ (own, v) :: after) key = some v := by
  have not_before : before.lookup key = none := get?_of_absent absent
  rw [get?, List.lookup_append, not_before, List.lookup_cons, same]
  rfl

/-- So the value of a key is that of the first entry whose key is the same. -/
theorem get?_eq_some_iff {entries : List (κ × β)} {key : κ} {v : β} :
    get? entries key = some v ↔
      ∃ before own after, entries = before ++ (own, v) :: after ∧ (key == own) = true ∧
        ∀ entry ∈ before, (key == entry.1) = false := by
  constructor
  · intro found
    induction entries with
    | nil => cases found
    | cons entry rest ih =>
        obtain ⟨own, u⟩ := entry
        rw [get?, List.lookup_cons] at found
        cases same : key == own with
        | true =>
            rw [same] at found
            obtain rfl : u = v := by simpa using found
            exact ⟨[], own, rest, rfl, same, List.forall_mem_nil _⟩
        | false =>
            rw [same] at found
            obtain ⟨before, own', after, rfl, same', absent⟩ := ih found
            exact ⟨(own, u) :: before, own', after, rfl, same', List.forall_mem_cons.2 ⟨same, absent⟩⟩
  · rintro ⟨before, own, after, rfl, same, absent⟩
    exact get?_append_cons_of_beq same absent v after

theorem erase_append_cons_of_beq {key own : κ} (same : (own == key) = true) {before : List (κ × β)}
    (absent : ∀ entry ∈ before, (entry.1 == key) = false) (v : β) (after : List (κ × β)) :
    erase (before ++ (own, v) :: after) key = before ++ after := by
  rw [erase, List.eraseP_append_right _ (by simpa using absent), List.eraseP_cons, same, cond_true]

end Entries

/-! ## Where the triggers stand -/

namespace HasNoTriggers

variable {others : Mapping} (free : HasNoTriggers others)
include free

theorem on_ne : ∀ entry ∈ others, (Scalar.text "on" == entry.1) = false := by
  intro entry mem
  rw [Scalar.text_beq, decide_eq_false_iff_not]
  exact fun same => free.not_on entry mem same.symm

theorem get?_true : Entries.get? others (.bool true) = none := by
  apply Entries.get?_of_absent
  intro entry mem
  rw [Scalar.beq_comm]
  exact free.not_true entry mem

end HasNoTriggers

section Place

variable {others before after entries : Mapping} {v : Value}

/-- Triggers under their proper key are found there. -/
theorem get?_on_append_cons (free : HasNoTriggers (before ++ after)) (v : Value) :
    Entries.get? (before ++ (.text "on", v) :: after) (.text "on") = some v := by
  refine Entries.get?_append_cons_of_beq ?_ (fun entry mem => ?_) v after
  · rw [Scalar.text_beq, decide_eq_true_eq]
  · exact free.on_ne entry (List.mem_append_left after mem)

/-- If nothing has the proper key, the first entry under a key that is the same as true moves to the end. -/
theorem withTriggersKey_append_cons_of_beq {key : Scalar} (same : (key == Scalar.bool true) = true)
    (absent : ∀ entry ∈ before, (entry.1 == Scalar.bool true) = false)
    (not_on : ∀ entry ∈ before ++ after, entry.1 ≠ .text "on") (v : Value) :
    withTriggersKey (before ++ (key, v) :: after) = before ++ after ++ [(.text "on", v)] := by
  have found : Entries.get? (before ++ (key, v) :: after) (.bool true) = some v := by
    refine Entries.get?_append_cons_of_beq (by rw [Scalar.beq_comm, same]) (fun entry mem => ?_) v after
    rw [Scalar.beq_comm]
    exact absent entry mem
  have last : ∀ entry ∈ before ++ after, (entry.1 == triggersKey) = false := by
    intro entry mem
    rw [triggersKey, Scalar.beq_text, decide_eq_false_iff_not]
    exact not_on entry mem
  have apart : (triggersKey == key) = false := by
    rw [triggersKey, Scalar.text_beq, decide_eq_false_iff_not]
    rintro rfl
    cases same
  have not_there : Entries.has (before ++ (key, v) :: after) triggersKey = false := by
    rw [Entries.has, Entries.get?_append_cons_of_ne apart, Entries.get?_of_absent]
    · rfl
    · intro entry mem
      rw [Scalar.beq_comm]
      exact last entry mem
  rw [withTriggersKey, found]
  simp only [not_there, Bool.false_eq_true, if_false]
  rw [Entries.erase_append_cons_of_beq same absent, Entries.set_of_absent last]
  rfl

theorem HasNoTriggers.withTriggersKey_append_cons (free : HasNoTriggers (before ++ after)) {key : Scalar}
    (same : (key == Scalar.bool true) = true) (v : Value) :
    withTriggersKey (before ++ (key, v) :: after) = before ++ after ++ [(.text "on", v)] := by
  apply withTriggersKey_append_cons_of_beq same
  · intro entry mem
    exact free.not_true entry (List.mem_append_left after mem)
  · exact free.not_on

/-- Otherwise nothing moves. -/
theorem withTriggersKey_cases (entries : Mapping) :
    withTriggersKey entries = entries ∨
      ∃ before key v after, entries = before ++ (key, v) :: after ∧ (key == Scalar.bool true) = true ∧
        (∀ entry ∈ before ++ after, entry.1 ≠ .text "on") ∧
          withTriggersKey entries = before ++ after ++ [(.text "on", v)] := by
  cases found : Entries.get? entries (.bool true) with
  | none => exact .inl (by rw [withTriggersKey, found])
  | some v =>
      cases proper : Entries.get? entries triggersKey with
      | some v' => exact .inl (by simp [withTriggersKey, found, Entries.has, proper])
      | none =>
          obtain ⟨before, key, after, rfl, same, absent⟩ := Entries.get?_eq_some_iff.1 found
          rw [Scalar.beq_comm] at same
          have absent : ∀ entry ∈ before, (entry.1 == Scalar.bool true) = false := by
            intro entry mem
            rw [Scalar.beq_comm]
            exact absent entry mem
          have not_on : ∀ entry ∈ before ++ after, entry.1 ≠ .text "on" := by
            rintro entry mem e
            have there : entry ∈ before ++ (key, v) :: after :=
              (List.sublist_append_right [(key, v)] after).append_left before |>.mem mem
            have apart := Entries.get?_eq_none_iff.1 proper entry there
            rw [e, triggersKey, Scalar.text_beq, decide_eq_false_iff_not] at apart
            exact apart rfl
          exact .inr ⟨before, key, v, after, rfl, same, not_on,
            withTriggersKey_append_cons_of_beq same absent not_on v⟩

/-- When the triggers have their proper key, they still stand somewhere among the other entries. -/
theorem exists_split_withTriggersKey (free : HasNoTriggers others) (given : GivesTriggers v others entries) :
    ∃ before after, others = before ++ after ∧
      withTriggersKey entries = before ++ (.text "on", v) :: after := by
  cases given with
  | underName before after =>
      refine ⟨before, after, rfl, ?_⟩
      have there : Entries.has (before ++ (.text "on", v) :: after) triggersKey = true := by
        rw [Entries.has, triggersKey, get?_on_append_cons free]
        rfl
      rw [withTriggersKey]
      split
      · rfl
      · rw [if_pos there]
  | underTrue before after =>
      -- they move to the end
      exact ⟨before ++ after, [], (List.append_nil _).symm, free.withTriggersKey_append_cons rfl v⟩

theorem withTriggersKey_of_free (free : HasNoTriggers others) : withTriggersKey others = others := by
  rw [withTriggersKey, free.get?_true]

end Place

/-! ## Workflows with the same triggers -/

/-- The other entries give the same problems wherever the triggers stand among them. -/
theorem alike_extras_append_cons (before after before' after' : Mapping)
    (same : before ++ after = before' ++ after') (v v' : Value) :
    Alike (fun _ => ()) (extras (before ++ (.text "on", v) :: after) workflowFields)
      (extras (before' ++ (.text "on", v') :: after') workflowFields) := by
  have left := (widened_append_cons before after "on" v).extras workflowFields
  have right := (widened_append_cons before' after' "on" v').extras workflowFields
  rw [← same] at right
  exact left.symm.trans right

/-- Workflows with the same other fields come to the same, if what is read of their triggers and of their
other entries does. -/
theorem alike_workflow_of_triggers {entries entries' : Mapping}
    (fields : ∀ name, name ≠ "on" →
      Entries.get? entries (.text name) = Entries.get? entries' (.text name))
    (read : Alike (·.getD {}) (field entries ["on"] none triggers) (field entries' ["on"] none triggers))
    (noted : Alike (fun _ => ()) (extras entries workflowFields) (extras entries' workflowFields)) :
    Alike (fun noted => Workflow.ofDocument noted.content) (workflow (.map entries))
      (workflow (.map entries')) := by
  have field_eq {α : Type} {name : String} (ne : name ≠ "on") (default : α) (check : Value → Checked α) :
      field entries [name] default check = field entries' [name] default check := by
    rw [field, field, given?_singleton, given?_singleton, fields name ne]
  refine Alike.map (f := Prod.map Workflow.ofDocument fun _ => ()) (.both ?content noted) ?apart
  case content =>
    -- a table of triggers that is missing describes the same workflow as an empty one
    refine Alike.map (f := Prod.map id (Prod.map (·.getD {}) (Prod.map id id)))
      (.both ?title (.both read (.both ?permissions ?jobs))) ?described
    case title => exact .of_eq (field_eq (by decide) _ _)
    case permissions => exact .of_eq (field_eq (by decide) _ _)
    case jobs => exact .of_eq (field_eq (by decide) _ _)
    case described =>
      rintro ⟨name, triggers, permissions, jobs⟩ ⟨name', triggers', permissions', jobs'⟩ same
      simp only [Prod.map_apply, Prod.mk.injEq, id] at same
      obtain ⟨rfl, same_triggers, rfl, rfl⟩ := same
      simp only [Workflow.ofDocument, same_triggers]
  case apart =>
    rintro ⟨content, extra⟩ ⟨content', extra'⟩ same
    exact (Prod.mk.inj same).1

/-! ## What is read of the triggers -/

/-- A value that all keys have is set without a change, or goes to the end under a new key. -/
theorem Entries.set_text_const {β : Type} (names : List String) (name : String) (v : β) :
    set (names.map fun n => (Scalar.text n, v)) (.text name) v =
      (if names.contains name then names else names ++ [name]).map fun n => (Scalar.text n, v) := by
  induction names with
  | nil => rfl
  | cons n names ih =>
      rw [List.map_cons, set, Scalar.text_beq_text, ih, List.contains_cons]
      by_cases same : n = name
      · subst same
        simp
      · have other : (name == n) = false := beq_false_of_ne fun e => same e.symm
        simp only [beq_false_of_ne same, other, Bool.false_eq_true, if_false, Bool.false_or]
        split
        · rfl
        · rfl

theorem Entries.ofList_text_const {β : Type} (names : List String) (v : β) :
    ofList (names.map fun n => (Scalar.text n, v)) = names.eraseDups.map fun n => (Scalar.text n, v) := by
  induction names using List.reverseRecOn with
  | nil => rfl
  | append_singleton names name ih =>
      have last : ofList ((names ++ [name]).map fun n => (Scalar.text n, v)) =
          set (ofList (names.map fun n => (Scalar.text n, v))) (.text name) v := by
        simp only [ofList, update, List.map_append, List.foldl_append, List.map_cons, List.map_nil,
          List.foldl_cons, List.foldl_nil]
      -- the last name is new, or it is there and has the value already
      rw [last, ih, set_text_const, List.eraseDups_append, List.cons_removeAll]
      by_cases present : name ∈ names
      · simp [present]
      · simp [present, List.eraseDups_cons]

/-- Triggers that spell the same are read as the same. -/
theorem triggers_eq {v v' : Value} (spelled : Spelled v v') : triggers v = triggers v' := by
  cases spelled with
  | same => rfl
  | name event => rfl
  | names events =>
      -- a name is displayed as itself, unlike other items that a list may hold
      have texts : (events.map Value.text).mapM displayed = .ok events := by
        induction events with
        | nil => rfl
        | cons event events ih =>
            rw [List.map_cons, List.mapM_cons, displayed_text, ih]
            rfl
      rw [triggers, spelledTriggers, texts]
      simp only [Except.map, Value.mapOfEntries, Entries.ofList_text_const]
      rfl

/-! ## Workflows of one spelling and of another -/

section Respelled

variable {others before after entries entries' : Mapping} {v v' : Value}

theorem get?_name_append_cons {name : String} (ne : name ≠ "on") (before after : Mapping) (v : Value) :
    Entries.get? (before ++ (.text "on", v) :: after) (.text name) =
      Entries.get? (before ++ after) (.text name) := by
  refine Entries.get?_append_cons_of_ne ?_ before after v
  rw [Scalar.text_beq_text]
  exact beq_false_of_ne ne

/-- The triggers are read under their proper key. -/
theorem field_on_append_cons (free : HasNoTriggers (before ++ after)) (v : Value) :
    field (before ++ (.text "on", v) :: after) ["on"] none triggers = (triggers v).inside "on" := by
  rw [field, given?_singleton, get?_on_append_cons free]
  rfl

theorem field_on_of_free (free : HasNoTriggers others) : field others ["on"] none triggers = .ok none := by
  rw [field, given?_singleton, Entries.get?_of_absent free.on_ne]
  rfl

theorem alike_workflow_respelled (free : HasNoTriggers others) (given : GivesTriggers v others entries)
    (given' : GivesTriggers v' others entries') (spelled : Spelled v v') :
    Alike (fun noted => Workflow.ofDocument noted.content) (workflow (.map (withTriggersKey entries)))
      (workflow (.map (withTriggersKey entries'))) := by
  obtain ⟨before, after, split, moved⟩ := exists_split_withTriggersKey free given
  obtain ⟨before', after', split', moved'⟩ := exists_split_withTriggersKey free given'
  have same_others : before ++ after = before' ++ after' := split.symm.trans split'
  rw [moved, moved']
  refine alike_workflow_of_triggers ?fields ?read (alike_extras_append_cons _ _ _ _ same_others v v')
  case fields =>
    intro name ne
    rw [get?_name_append_cons ne, get?_name_append_cons ne, same_others]
  case read =>
    rw [field_on_append_cons (split ▸ free), field_on_append_cons (split' ▸ free), triggers_eq spelled]
    exact .refl _ _

/-- An empty list of triggers comes to the same as no triggers. -/
theorem alike_workflow_nothing (free : HasNoTriggers others)
    (given : GivesTriggers (.list []) others entries) :
    Alike (fun noted => Workflow.ofDocument noted.content) (workflow (.map (withTriggersKey entries)))
      (workflow (.map (withTriggersKey others))) := by
  obtain ⟨before, after, split, moved⟩ := exists_split_withTriggersKey free given
  rw [moved, withTriggersKey_of_free free]
  subst split
  refine alike_workflow_of_triggers ?fields ?read ?noted
  case fields =>
    intro name ne
    rw [get?_name_append_cons ne]
  case read =>
    rw [field_on_append_cons free, field_on_of_free free]
    exact .ok rfl
  case noted => exact ((widened_append_cons before after "on" _).extras workflowFields).symm

/-- Where no triggers are given, a strict reading gives no workflow, and another one a workflow without
triggers. -/
theorem triggers_of_free (free : HasNoTriggers others) {source : Option String} {strict : Bool} {w : Workflow}
    (read : Workflow.ofMapping source strict others = .ok w) : strict = false ∧ w.triggers = {} := by
  obtain ⟨noted, checked, rfl, met⟩ := (DocumentKind.workflows.ofMapping_eq_ok_iff).1 read
  have is_read : workflow (.map others) = .ok noted := by
    rw [← withTriggersKey_of_free free]
    exact checked
  have none_read : noted.content.triggers = none := by
    obtain ⟨_, e, content, -⟩ := recordOf_eq_ok_iff.1 is_read
    cases e
    obtain ⟨⟨name, found, permissions, jobs⟩, fields, e⟩ := map_eq_ok_iff.1 content
    simp only [both_eq_ok_iff] at fields
    obtain ⟨-, read_triggers, -⟩ := fields
    rw [field_on_of_free free] at read_triggers
    rw [← e]
    exact (Except.ok.inj read_triggers).symm
  constructor
  · cases strict with
    | false => rfl
    | true =>
        -- a strict reading demands triggers of the document
        have demanded := firstUnmet?_eq_none_iff.1 (met rfl)
          (noted.content.triggers.any fun triggers => !triggers.isEmpty, .workflowTriggers)
          (List.mem_cons_of_mem _ List.mem_cons_self)
        rw [none_read] at demanded
        cases demanded
  · show noted.content.triggers.getD {} = {}
    rw [none_read]
    rfl

end Respelled

/-- **The spelling of triggers does not matter.** Let the other entries of a workflow have no key that could
be taken for that of the triggers. Then its triggers may stand under `on` or under the boolean true, anywhere
among the other entries, and a name or a list of names may stand for the mapping of the different names to
null: a reading has the same outcome, strictly or not, which is the same workflow or the same error. An empty
list comes to the same as no triggers at all, with which nothing is read strictly, and otherwise a workflow
without triggers. -/
theorem ofMapping_respelled (others : Mapping) (free : HasNoTriggers others) :
    (∀ v v' entries entries', Spelled v v' → GivesTriggers v others entries →
      GivesTriggers v' others entries' → ∀ source strict,
        Workflow.ofMapping source strict entries = Workflow.ofMapping source strict entries') ∧
    ∀ entries, GivesTriggers (.list []) others entries → ∀ source strict,
      Workflow.ofMapping source strict entries = Workflow.ofMapping source strict others ∧
        ∀ w, Workflow.ofMapping source strict entries = .ok w → strict = false ∧ w.triggers = {} := by
  constructor
  · intro v v' entries entries' spelled given given' source strict
    exact DocumentKind.workflows.ofMapping_eq_of_alike workflowRequirements_eq
      (alike_workflow_respelled free given given' spelled) source strict
  · intro entries given source strict
    have same : Workflow.ofMapping source strict entries = Workflow.ofMapping source strict others :=
      DocumentKind.workflows.ofMapping_eq_of_alike workflowRequirements_eq
        (alike_workflow_nothing free given) source strict
    refine ⟨same, ?_⟩
    intro w read
    rw [same] at read
    exact triggers_of_free free read

/-- A workflow with a name and a job, and without triggers. -/
def untriggered : Mapping :=
  [(.text "name", .text "checks"), (.text "jobs", .map [(.text "test", .map [])])]

/-- Three names, one of them twice, under true between the other entries of a workflow, and as a mapping
under `on` behind them: read strictly, both are the workflow with two triggers. With an empty list the
workflow is refused for want of triggers, as it is without one. -/
theorem ofMapping_respelled_twice :
    HasNoTriggers untriggered ∧
      Workflow.ofMapping none true
          [(.text "name", .text "checks"), (.bool true, .list [.text "push", .text "release", .text "push"]),
            (.text "jobs", .map [(.text "test", .map [])])] =
        Workflow.ofMapping none true
          (untriggered ++ [(.text "on", .map [(.text "push", .null), (.text "release", .null)])]) ∧
      (∃ w, Workflow.ofMapping none true
          (untriggered ++ [(.text "on", .map [(.text "push", .null), (.text "release", .null)])]) = .ok w ∧
        w.triggers.keys = ["push", "release"]) ∧
      Workflow.ofMapping none true ((.text "on", .list []) :: untriggered) =
        Workflow.ofMapping none true untriggered ∧
      Workflow.ofMapping none true untriggered = .error ⟨.unmet .workflowTriggers, none⟩ := by
  have free : HasNoTriggers untriggered := by
    constructor
    · decide
    · decide
  obtain ⟨respelled, nothing⟩ := ofMapping_respelled untriggered free
  have spelled : Spelled (.list [.text "push", .text "release", .text "push"])
      (.map [(.text "push", .null), (.text "release", .null)]) := .names ["push", "release", "push"]
  refine ⟨free, ?_, ⟨_, rfl, rfl⟩, ?_, rfl⟩
  · exact respelled _ _ _ _ spelled (.underTrue [_] [_]) (.underName [_, _] []) none true
  · exact (nothing _ (.underName [] untriggered) none true).1

end ActionRehearsal
