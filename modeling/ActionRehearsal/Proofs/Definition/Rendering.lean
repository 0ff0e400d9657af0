import ActionRehearsal.Definition.Mapping
import ActionRehearsal.Definition.Reading
import ActionRehearsal.Proofs.Schema.Check

/-!
# Reading undoes writing out

`Action.toMapping` and `Workflow.toMapping` spell a definition out. Reading such a mapping leniently
gives the definition back, if every step names a known shell or none (`Step.HasKnownShell`); and that
is so of every definition that is read, of whatever document. This is the main statement,
`reading_undoes_writing`.

A record that is spelled out has each of its fields under the first of the field's names and nothing
else (`Spells`). So a check of such a record reads each field in the value that was written for it and
finds no other entries (`recordOf_ofFields`), and one lemma for each kind of record is enough, from
steps and inputs up to the whole document.
-/

set_option autoImplicit false

namespace ActionRehearsal

/-! ## Records that are spelled out -/

theorem Scalar.text_beq_text (a b : String) : (Scalar.text a == Scalar.text b) = (a == b) := by
  rw [Scalar.text_beq, Bool.eq_iff_iff]
  simp

theorem get?_ofFields (fields : List (String × Value)) (name : String) :
    Entries.get? (Mapping.ofFields fields) (.text name) = Entries.get? fields name := by
  simp only [Entries.get?, Mapping.ofFields]
  induction fields with
  | nil => rfl
  | cons field fields ih =>
      rw [List.map_cons, List.lookup_cons, List.lookup_cons, Scalar.text_beq_text]
      cases name == field.1 with
      | true => rfl
      | false => exact ih

namespace Schema

open Checked

variable {α β : Type}

/-- Whether fields that are written out are those of a record with the given names, in order and each
under the first of its names. -/
structure Spells (fields : List (String × Value)) (names : List (List String)) : Prop where
  first_names : fields.map (·.1) = names.filterMap List.head?
  distinct : (names.filterMap List.head?).Nodup

section Fields

variable {fields : List (String × Value)} {names : List (List String)}

theorem Spells.given? (spelled : Spells fields names) {name : String} {v : Value}
    (mem : (name, v) ∈ fields) (aliases : List String) :
    given? (Mapping.ofFields fields) (name :: aliases) = some (name, v) := by
  have distinct : (fields.map (·.1)).Nodup := spelled.first_names ▸ spelled.distinct
  let table : Table String Value := ⟨fields, distinct⟩
  have here : Entries.get? fields name = some v := Table.get?_of_mem (t := table) mem
  rw [Schema.given?, get?_ofFields, here]

/-- A field that is written out is read in the value written for it. -/
theorem Spells.field (spelled : Spells fields names) {name : String} (v : Value)
    (mem : (name, v) ∈ fields) {check : Value → Checked α} {a : α} (read : check v = .ok a)
    (aliases : List String) (default : α) :
    field (Mapping.ofFields fields) (name :: aliases) default check = .ok a := by
  rw [field_eq_ok_iff, spelled.given? mem]
  exact read

/-- There are no entries but the fields. -/
theorem Spells.extras (spelled : Spells fields names) :
    extras (Mapping.ofFields fields) names = .ok {} := by
  have used : ∀ field ∈ fields, field.1 ∈ givenNames (Mapping.ofFields fields) names := by
    intro field mem
    have first : field.1 ∈ names.filterMap List.head? :=
      spelled.first_names ▸ List.mem_map_of_mem mem
    obtain ⟨all, hall, hfirst⟩ := List.mem_filterMap.1 first
    obtain ⟨aliases, rfl⟩ := List.head?_eq_some_iff.1 hfirst
    refine List.mem_filterMap.2 ⟨_, hall, ?_⟩
    rw [spelled.given? mem, Option.map_some]
  rw [Schema.extras]
  generalize givenNames (Mapping.ofFields fields) names = given at used ⊢
  refine map_eq_ok_iff.2 ⟨fields.map fun _ => none, all_eq_ok_iff.2 ?_, ?_⟩
  · rw [Mapping.ofFields, List.map_map, List.map_map]
    refine List.map_congr_left fun field mem => ?_
    simp only [Function.comp_apply, List.contains_iff_mem.2 (used field mem), if_true]
  · have none_left : (fields.map fun _ => (none : Option (String × Value))).filterMap id = [] := by
      simp
    rw [none_left]
    rfl

end Fields

/-- A record without other entries. -/
def Noted.ofContent (content : α) : Noted α := ⟨content, {}⟩

theorem map_content_ofContent (contents : List α) :
    (contents.map Noted.ofContent).map (·.content) = contents := by
  rw [List.map_map]
  exact List.map_id contents

/-- A record that is spelled out is read if its fields are, and has no other entries. -/
theorem recordOf_ofFields {model : String} {fields : List (String × Value)}
    {names : List (List String)} {check : Mapping → Checked α} {content : α}
    (spelled : Spells fields names)
    (read : Spells fields names → check (Mapping.ofFields fields) = .ok content) :
    recordOf model names check (.map (Mapping.ofFields fields)) = .ok (.ofContent content) :=
  recordOf_eq_ok_iff.2 ⟨_, rfl, read spelled, spelled.extras⟩

/-! ## Values and collections that are spelled out -/

section Collections

variable {check : Value → Checked α}

theorem text_text (s : String) : text (.text s) = .ok s := rfl

theorem textOrEmpty_text (s : String) : textOrEmpty (.text s) = .ok s := rfl

theorem flag_bool (b : Bool) : flag (.bool b) = .ok b := rfl

theorem looseText_text (s : String) : looseText (.text s) = .ok s := rfl

theorem optional_ofText? (s : Option String) : optional text (.ofText? s) = .ok s := by
  cases s with
  | none => rfl
  | some s => rfl

theorem looseOptionalText_ofText? (s : Option String) : looseOptionalText (.ofText? s) = .ok s := by
  cases s with
  | none => rfl
  | some s => rfl

theorem listOf_map {items : List β} {value : β → Value} {read : β → α}
    (h : ∀ item ∈ items, check (value item) = .ok (read item)) :
    listOf check (.list (items.map value)) = .ok (items.map read) := by
  rw [listOf_list_eq_ok_iff, List.map_map, List.map_map]
  exact List.map_congr_left h

theorem tableOf_toValue {t : Table String β} {value : β → Value} {read : β → α}
    (h : ∀ entry ∈ t.entries, check (value entry.2) = .ok (read entry.2)) :
    tableOf check (t.toValue value) = .ok (t.mapValues read) := by
  refine tableOf_map_eq_ok_iff.2 ⟨(t.mapValues read).entries, ?_, Table.ofList_entries _⟩
  rw [Table.mapValues, List.map_map, List.map_map]
  refine List.map_congr_left fun entry mem => ?_
  exact both_eq_ok_iff.2 ⟨rfl, h entry mem⟩

/-- A table whose values are read as they were. -/
theorem tableOf_toValue_self {t : Table String α} {value : α → Value}
    (h : ∀ a, check (value a) = .ok a) : tableOf check (t.toValue value) = .ok t := by
  have read : tableOf check (t.toValue value) = .ok (t.mapValues fun a => a) :=
    tableOf_toValue fun entry _ => h entry.2
  rwa [Table.mapValues_id] at read

theorem optional_toValue? {t : Option (Table String α)} {value : α → Value}
    (h : ∀ a, check (value a) = .ok a) : optional (tableOf check) (Table.toValue? value t) = .ok t := by
  cases t with
  | none => rfl
  | some t =>
      refine optional_eq_ok_iff.2 (.inr ⟨?_, t, tableOf_toValue_self h, rfl⟩)
      intro e
      cases e

end Collections

theorem displayed_text (s : String) : displayed (.text s) = .ok s := by
  simp [displayed, holdsUnwritable, isUnwritable, Value.display, Scalar.display]

/-- Parameters that are written out are texts already. -/
theorem textParams_toValue (t : Table String String) :
    textParams (t.toValue .text) = .ok (t.toValue .text) := by
  have kept : ∀ entries : List (String × String),
      (entries.map fun entry => (Scalar.text entry.1, Value.text entry.2)).mapM textParam =
        .ok (entries.map fun entry => (Scalar.text entry.1, Value.text entry.2)) := by
    intro entries
    induction entries with
    | nil => rfl
    | cons entry entries ih =>
        have here : textParam (.text entry.1, .text entry.2) = .ok (.text entry.1, .text entry.2) := by
          simp [textParam, displayed_text, Checked.andThen, stringified, Except.map]
        rw [List.map_cons, List.mapM_cons, ih, here]
        rfl
  have distinct : (t.entries.map fun entry => (Scalar.text entry.1, Value.text entry.2)).Pairwise
      fun a b => (a.1 == b.1) = false := by
    refine List.pairwise_map.2 ((List.pairwise_map.1 t.distinct).imp fun ne => ?_)
    rw [Scalar.text_beq_text]
    exact beq_false_of_ne ne
  rw [Table.toValue, textParams, kept, Except.map, Value.mapOfEntries,
    Entries.ofList_of_distinct distinct]

theorem params_toValue? (t : Option (Table String String)) :
    params (Table.toValue? .text t) = .ok t := by
  refine andThen_eq_ok_iff.2 ⟨Table.toValue? .text t, ?_, optional_toValue? fun _ => rfl⟩
  cases t with
  | none => rfl
  | some t => exact textParams_toValue t

end Schema

/-! ## Steps and inputs -/

/-- Whether a step names a known shell or none. -/
def Step.HasKnownShell (step : Step) : Prop := ∀ name ∈ step.shell, name ∈ Shell.names

instance (step : Step) : Decidable step.HasKnownShell :=
  inferInstanceAs (Decidable (∀ name ∈ step.shell, name ∈ Shell.names))

theorem Step.hasKnownShell_iff (step : Step) :
    step.HasKnownShell ↔
      step.shell = none ∨ ∃ name ∈ Shell.names, step.shell = some name := by
  rw [HasKnownShell]
  cases step.shell with
  | none => simp
  | some name => simp [eq_comm]

open Schema Checked

theorem shell_ofText? {step : Step} (known : step.HasKnownShell) :
    shell (.ofText? step.shell) = .ok step.shell := by
  refine andThen_eq_ok_iff.2 ⟨step.shell, optional_ofText? _, ?_⟩
  cases given : step.shell with
  | none => rfl
  | some name => exact if_pos (List.contains_iff_mem.2 (known name given))

/-- A step that is written out is read as it was. -/
theorem step_toMapping {step : Step} (known : step.HasKnownShell) :
    Schema.step (.map step.toMapping) = .ok (.ofContent step) := by
  refine recordOf_ofFields ⟨rfl, by decide⟩ fun spelled => map_eq_ok_iff.2 ⟨(step.name, step.id,
    step.shell, step.run, step.uses, step.condition, step.params), ?_, rfl⟩
  simp only [both_eq_ok_iff]
  refine ⟨?_, ?_, ?_, ?_, ?_, ?_, ?_⟩
  · exact spelled.field (.text step.name) (by simp) (looseText_text _) _ _
  · exact spelled.field (.ofText? step.id) (by simp) (looseOptionalText_ofText? _) _ _
  · exact spelled.field (.ofText? step.shell) (by simp) (shell_ofText? known) _ _
  · exact spelled.field (.ofText? step.run) (by simp) (looseOptionalText_ofText? _) _ _
  · exact spelled.field (.ofText? step.uses) (by simp) (optional_ofText? _) _ _
  · exact spelled.field (.ofText? step.condition) (by simp) (looseOptionalText_ofText? _) _ _
  · exact spelled.field (Table.toValue? .text step.params) (by simp) (params_toValue? _) _ _

/-- Steps that are written out are read as they were. -/
theorem steps_stepsValue {steps : List Step} (known : ∀ step ∈ steps, step.HasKnownShell) :
    Schema.steps (stepsValue steps) = .ok (steps.map .ofContent) :=
  listOf_map fun step mem => step_toMapping (known step mem)

/-- An input that is written out is read as it was. -/
theorem input_toMapping (spec : InputSpec) :
    input (.map spec.toMapping) = .ok (.ofContent spec) := by
  refine recordOf_ofFields ⟨rfl, by decide⟩ fun spelled =>
    map_eq_ok_iff.2 ⟨(spec.description, spec.required, spec.default), ?_, rfl⟩
  simp only [both_eq_ok_iff]
  refine ⟨?_, ?_, ?_⟩
  · exact spelled.field (.text spec.description) (by simp) (looseText_text _) _ _
  · exact spelled.field (.bool spec.required) (by simp) (flag_bool _) _ _
  · exact spelled.field (.ofText? spec.default) (by simp) (looseOptionalText_ofText? _) _ _

/-! ## Actions -/

/-- The runs of an action, as a document has them. -/
def Action.runs (a : Action) : Runs := ⟨a.runner, a.steps.map .ofContent⟩

/-- The document that spells out an action. -/
def Action.toDocument (a : Action) : ActionDocument where
  name := a.name
  description := a.description
  author := a.author
  inputs := a.inputs.mapValues .ofContent
  runs := some (.ofContent a.runs)

theorem runs_toMapping {a : Action} (known : ∀ step ∈ a.steps, step.HasKnownShell) :
    optional runs (.map (Mapping.ofFields [("using", .text a.runner), ("steps", stepsValue a.steps)])) =
      .ok (some (.ofContent a.runs)) := by
  have read : runs (.map (Mapping.ofFields
      [("using", .text a.runner), ("steps", stepsValue a.steps)])) = .ok (.ofContent a.runs) := by
    refine recordOf_ofFields ⟨rfl, by decide⟩ fun spelled =>
      map_eq_ok_iff.2 ⟨(a.runner, a.steps.map .ofContent), both_eq_ok_iff.2 ⟨?_, ?_⟩, rfl⟩
    · exact spelled.field (.text a.runner) (by simp) (text_text _) _ _
    · exact spelled.field (stepsValue a.steps) (by simp) (steps_stepsValue known) _ _
  exact map_eq_ok_iff.2 ⟨_, read, rfl⟩

theorem inputs_toMapping (t : Table String InputSpec) :
    inputs (t.toValue fun spec => .map spec.toMapping) = .ok (t.mapValues .ofContent) := by
  have bodies : withBodies (t.toValue fun spec => .map spec.toMapping) =
      t.toValue fun spec => .map spec.toMapping := by
    rw [Table.toValue, withBodies, List.map_map]
    rfl
  have read : tableOf input (t.toValue fun spec => .map spec.toMapping) =
      .ok (t.mapValues .ofContent) := tableOf_toValue fun entry _ => input_toMapping entry.2
  rw [← bodies] at read
  exact read

/-- An action that is written out is read as the document that spells it out. -/
theorem action_toMapping {a : Action} (known : ∀ step ∈ a.steps, step.HasKnownShell) :
    action (.map a.toMapping) = .ok (.ofContent a.toDocument) := by
  refine recordOf_ofFields ⟨rfl, by decide⟩ fun spelled => map_eq_ok_iff.2 ⟨(a.name, a.description,
    a.author, a.inputs.mapValues .ofContent, some (.ofContent a.runs)), ?_, rfl⟩
  simp only [both_eq_ok_iff]
  refine ⟨?_, ?_, ?_, ?_, ?_⟩
  · exact spelled.field (.text a.name) (by simp) (textOrEmpty_text _) _ _
  · exact spelled.field (.text a.description) (by simp) (textOrEmpty_text _) _ _
  · exact spelled.field (.text a.author) (by simp) (textOrEmpty_text _) _ _
  · exact spelled.field (a.inputs.toValue fun spec => .map spec.toMapping) (by simp)
      (inputs_toMapping _) _ _
  · exact spelled.field (.map (Mapping.ofFields [("using", .text a.runner),
      ("steps", stepsValue a.steps)])) (by simp) (runs_toMapping known) _ _

/-- That document describes the action. -/
theorem Action.ofDocument_toDocument (a : Action) : Action.ofDocument a.toDocument = a := by
  have same_inputs : (a.inputs.mapValues Noted.ofContent).mapValues (·.content) = a.inputs :=
    (Table.mapValues_mapValues _ _ _).trans (Table.mapValues_id _)
  simp only [ofDocument, toDocument, same_inputs]
  simp only [Noted.ofContent, runs, map_content_ofContent]

/-! ## Workflows -/

/-- The job document that spells out a job. -/
def Job.toDocument (job : Job) : JobDocument where
  runsOn := job.runsOn
  strategy := some (.ofContent ⟨job.matrix⟩)
  steps := job.steps.map .ofContent

/-- The document that spells out a workflow. -/
def Workflow.toDocument (w : Workflow) : WorkflowDocument where
  name := w.name
  triggers := some w.triggers
  permissions := w.permissions
  jobs := w.jobs.mapValues fun job => .ofContent job.toDocument

theorem machines_toValue (m : Machines) : machines m.toValue = .ok m := by
  cases m with
  | one label => rfl
  | labels labels =>
      have read : listOf text (.list (labels.map .text)) = .ok (labels.map id) :=
        listOf_map fun label _ => text_text label
      rw [List.map_id] at read
      simp only [machines, Machines.toValue, read]
      rfl

theorem strategy_toMapping (matrix : Option (Table String Value)) :
    optional strategy (.map (Mapping.ofFields [("matrix", Table.toValue? id matrix)])) =
      .ok (some (.ofContent ⟨matrix⟩)) := by
  have read : strategy (.map (Mapping.ofFields [("matrix", Table.toValue? id matrix)])) =
      .ok (.ofContent ⟨matrix⟩) := by
    refine recordOf_ofFields ⟨rfl, by decide⟩ fun spelled => map_eq_ok_iff.2 ⟨matrix, ?_, rfl⟩
    exact spelled.field (Table.toValue? id matrix) (by simp) (optional_toValue? fun _ => rfl) _ _
  exact map_eq_ok_iff.2 ⟨_, read, rfl⟩

/-- A job that is written out is read as the document that spells it out. -/
theorem job_toMapping {j : Job} (known : ∀ step ∈ j.steps, step.HasKnownShell) :
    job (.map j.toMapping) = .ok (.ofContent j.toDocument) := by
  refine recordOf_ofFields ⟨rfl, by decide⟩ fun spelled => map_eq_ok_iff.2 ⟨(j.runsOn,
    some (.ofContent ⟨j.matrix⟩), j.steps.map .ofContent), ?_, rfl⟩
  simp only [both_eq_ok_iff]
  refine ⟨?_, ?_, ?_⟩
  · exact spelled.field j.runsOn.toValue (by simp) (machines_toValue _) _ _
  · exact spelled.field (.map (Mapping.ofFields [("matrix", Table.toValue? id j.matrix)])) (by simp)
      (strategy_toMapping _) _ _
  · exact spelled.field (stepsValue j.steps) (by simp) (steps_stepsValue known) _ _

/-- That document describes the job. -/
theorem Job.ofDocument_toDocument (job : Job) : Job.ofDocument job.toDocument = job := by
  simp only [ofDocument, toDocument, map_content_ofContent]
  rfl

/-- A workflow that is written out is read as the document that spells it out. -/
theorem workflow_toMapping {w : Workflow} (known : ∀ step ∈ w.allSteps, step.HasKnownShell) :
    workflow (.map w.toMapping) = .ok (.ofContent w.toDocument) := by
  have read_jobs : tableOf job (w.jobs.toValue fun job => .map job.toMapping) =
      .ok (w.jobs.mapValues fun job => .ofContent job.toDocument) :=
    tableOf_toValue fun entry mem => job_toMapping fun step hstep =>
      known step (List.mem_flatMap.2 ⟨entry, mem, hstep⟩)
  have read_triggers : triggers (w.triggers.toValue id) = .ok (some w.triggers) := by
    refine andThen_eq_ok_iff.2 ⟨w.triggers.toValue id, rfl, ?_⟩
    exact optional_toValue? (t := some w.triggers) fun _ => rfl
  refine recordOf_ofFields ⟨rfl, by decide⟩ fun spelled => map_eq_ok_iff.2 ⟨(w.name,
    some w.triggers, w.permissions, w.jobs.mapValues fun job => .ofContent job.toDocument), ?_, rfl⟩
  simp only [both_eq_ok_iff]
  refine ⟨?_, ?_, ?_, ?_⟩
  · exact spelled.field (.text w.name) (by simp) (textOrEmpty_text _) _ _
  · exact spelled.field (w.triggers.toValue id) (by simp) read_triggers _ _
  · exact spelled.field (Table.toValue? .text w.permissions) (by simp)
      (optional_toValue? text_text) _ _
  · exact spelled.field (w.jobs.toValue fun job => .map job.toMapping) (by simp) read_jobs _ _

/-- That document describes the workflow. -/
theorem Workflow.ofDocument_toDocument (w : Workflow) : Workflow.ofDocument w.toDocument = w := by
  have same_jobs : ((w.jobs.mapValues fun job => Noted.ofContent job.toDocument).mapValues
      fun job => Job.ofDocument job.content) = w.jobs := by
    rw [Table.mapValues_mapValues]
    simp only [Noted.ofContent, Job.ofDocument_toDocument, Table.mapValues_id]
  simp only [ofDocument, toDocument, same_jobs]
  rfl

/-- The triggers of a workflow that is written out stand under their proper key. -/
theorem withTriggersKey_toMapping (w : Workflow) : withTriggersKey w.toMapping = w.toMapping := rfl

/-! ## What is read -/

section Read

variable {source : Option String} {mapping : Mapping}

/-- A document that is accepted is described. -/
theorem described_eq_ok_iff {δ α : Type} {check : Checked (Noted δ)} {describe : δ → α} {a : α} :
    (do let doc ← accepted source check
        return describe doc.content : Except ConfigError α) = .ok a ↔
      ∃ doc, check = .ok doc ∧ describe doc.content = a := by
  cases check with
  | error p => simp [accepted, Except.mapError, bind, Except.bind]
  | ok doc => simp [accepted, Except.mapError, bind, Except.bind, pure, Except.pure]

theorem Action.ofMapping_false_eq_ok_iff {a : Action} :
    Action.ofMapping source false mapping = .ok a ↔
      ∃ doc, action (.map mapping) = .ok doc ∧ Action.ofDocument doc.content = a :=
  described_eq_ok_iff

theorem Workflow.ofMapping_false_eq_ok_iff {w : Workflow} :
    Workflow.ofMapping source false mapping = .ok w ↔
      ∃ doc, workflow (.map (withTriggersKey mapping)) = .ok doc ∧
        Workflow.ofDocument doc.content = w :=
  described_eq_ok_iff

/-- What is read of a text is read of the mapping that the text loads as. -/
theorem exists_mapping_of_text [Platform] {α : Type} {text : String} {a : α}
    {ofMapping : Mapping → Except ConfigError α}
    (h : (do let mapping ← mappingOfText source text
             (ofMapping mapping).mapError .refused : Except ReadFault α) = .ok a) :
    ∃ mapping, mappingOfText source text = .ok mapping ∧ ofMapping mapping = .ok a := by
  cases loaded : mappingOfText source text with
  | error fault =>
      rw [loaded] at h
      cases h
  | ok mapping =>
      rw [loaded] at h
      refine ⟨mapping, rfl, ?_⟩
      cases read : ofMapping mapping with
      | error e =>
          have refused : Except.mapError ReadFault.refused (ofMapping mapping) = .ok a := h
          rw [read] at refused
          cases refused
      | ok a' =>
          have given : Except.mapError ReadFault.refused (ofMapping mapping) = .ok a := h
          rw [read] at given
          cases given
          rfl

end Read

/-! ## Shells of what is read -/

theorem mem_names_of_shell {v : Value} {given : Option String} (h : shell v = .ok given) :
    ∀ name ∈ given, name ∈ Shell.names := by
  obtain ⟨name?, -, checked⟩ := andThen_eq_ok_iff.1 h
  cases name? with
  | none =>
      cases checked
      intro name mem
      cases mem
  | some name =>
      simp only at checked
      split at checked
      · rename_i known
        cases checked
        intro name' mem
        cases mem
        exact List.contains_iff_mem.1 known
      · cases checked

/-- Every step that is read names a known shell or none. -/
theorem hasKnownShell_of_step {v : Value} {noted : Noted Step} (h : Schema.step v = .ok noted) :
    noted.content.HasKnownShell := by
  obtain ⟨entries, -, read, -⟩ := recordOf_eq_ok_iff.1 h
  obtain ⟨⟨name, id, given, run, uses, condition, params⟩, read, e⟩ := map_eq_ok_iff.1 read
  simp only [both_eq_ok_iff] at read
  obtain ⟨-, -, read_shell, -⟩ := read
  rw [← e]
  refine of_field (p := fun given : Option String => ∀ name ∈ given, name ∈ Shell.names) read_shell
    ?_ fun v given => mem_names_of_shell
  intro name mem
  cases mem

/-- So does every step of a field with steps. -/
theorem hasKnownShell_of_steps {entries : Mapping} {names : List String} {noted : List (Noted Step)}
    (h : field entries names [] Schema.steps = .ok noted) :
    ∀ step ∈ noted.map (·.content), step.HasKnownShell := by
  refine of_field (p := fun noted : List (Noted Step) => ∀ step ∈ noted.map (·.content),
    step.HasKnownShell) h ?_ fun v noted read => ?_
  · intro step mem
    cases mem
  · intro step mem
    obtain ⟨noted_step, hnoted, rfl⟩ := List.mem_map.1 mem
    unfold Schema.steps at read
    split at read
    · cases read
      cases hnoted
    · obtain ⟨item, read_item⟩ := exists_of_mem_listOf read hnoted
      exact hasKnownShell_of_step read_item

/-- Every step of an action that a document describes names a known shell or none. -/
theorem hasKnownShell_of_action {v : Value} {doc : Noted ActionDocument}
    (h : action v = .ok doc) :
    ∀ step ∈ (Action.ofDocument doc.content).steps, step.HasKnownShell := by
  obtain ⟨entries, -, read, -⟩ := recordOf_eq_ok_iff.1 h
  obtain ⟨⟨name, description, author, inputs, given⟩, read, e⟩ := map_eq_ok_iff.1 read
  simp only [both_eq_ok_iff] at read
  obtain ⟨-, -, -, -, read_runs⟩ := read
  rw [← e]
  refine of_field (p := fun given : Option (Noted Runs) => ∀ step ∈
    (Action.ofDocument ⟨name, description, author, inputs, given⟩).steps, step.HasKnownShell)
    read_runs ?_ fun v given read => ?_
  · intro step mem
    cases mem
  · rcases optional_eq_ok_iff.1 read with ⟨-, rfl⟩ | ⟨-, noted, read_noted, rfl⟩
    · intro step mem
      cases mem
    · obtain ⟨entries, -, both, -⟩ := recordOf_eq_ok_iff.1 read_noted
      obtain ⟨⟨runner, steps⟩, both, e⟩ := map_eq_ok_iff.1 both
      have read_steps := (both_eq_ok_iff.1 both).2
      simp only [Action.ofDocument, ← e]
      exact hasKnownShell_of_steps read_steps

/-- Every step of a job that a document describes does so. -/
theorem hasKnownShell_of_job {v : Value} {doc : Noted JobDocument} (h : job v = .ok doc) :
    ∀ step ∈ (Job.ofDocument doc.content).steps, step.HasKnownShell := by
  obtain ⟨entries, -, read, -⟩ := recordOf_eq_ok_iff.1 h
  obtain ⟨⟨runsOn, strategy, steps⟩, read, e⟩ := map_eq_ok_iff.1 read
  simp only [both_eq_ok_iff] at read
  obtain ⟨-, -, read_steps⟩ := read
  rw [← e]
  exact hasKnownShell_of_steps read_steps

/-- Every step of a workflow that a document describes does so. -/
theorem hasKnownShell_of_workflow {v : Value} {doc : Noted WorkflowDocument}
    (h : workflow v = .ok doc) :
    ∀ step ∈ (Workflow.ofDocument doc.content).allSteps, step.HasKnownShell := by
  obtain ⟨entries, -, read, -⟩ := recordOf_eq_ok_iff.1 h
  obtain ⟨⟨name, triggers, permissions, given⟩, read, e⟩ := map_eq_ok_iff.1 read
  simp only [both_eq_ok_iff] at read
  obtain ⟨-, -, -, read_jobs⟩ := read
  rw [← e]
  refine of_field (p := fun given : Table String (Noted JobDocument) => ∀ step ∈
    (Workflow.ofDocument ⟨name, triggers, permissions, given⟩).allSteps, step.HasKnownShell)
    read_jobs ?_ fun v given read => ?_
  · intro step mem
    cases mem
  · intro step mem
    obtain ⟨entry, hentry, hstep⟩ := List.mem_flatMap.1 mem
    obtain ⟨named, hnamed, rfl⟩ := List.mem_map.1 hentry
    unfold jobs at read
    split at read
    · cases read
      cases hnamed
    · obtain ⟨item, read_job⟩ := exists_of_mem_tableOf read hnamed
      exact hasKnownShell_of_job read_job step hstep

/-! ## Reading and writing out -/

theorem Action.ofMapping_toMapping_iff (source : Option String) (a : Action) :
    Action.ofMapping source false a.toMapping = .ok a ↔
      ∀ step ∈ a.steps, step.HasKnownShell := by
  rw [Action.ofMapping_false_eq_ok_iff]
  constructor
  · rintro ⟨doc, read, described⟩
    rw [← described]
    exact hasKnownShell_of_action read
  · intro known
    exact ⟨_, action_toMapping known, a.ofDocument_toDocument⟩

theorem Workflow.ofMapping_toMapping_iff (source : Option String) (w : Workflow) :
    Workflow.ofMapping source false w.toMapping = .ok w ↔
      ∀ step ∈ w.allSteps, step.HasKnownShell := by
  rw [Workflow.ofMapping_false_eq_ok_iff, withTriggersKey_toMapping]
  constructor
  · rintro ⟨doc, read, described⟩
    rw [← described]
    exact hasKnownShell_of_workflow read
  · intro known
    exact ⟨_, workflow_toMapping known, w.ofDocument_toDocument⟩

/-- **Reading undoes writing out.** The mapping that spells an action or a workflow out is read
leniently as the very definition, exactly if every step names a known shell or none. That is so of
every definition that a lenient reading gives, of whatever mapping or text; so reading, writing out and
reading again gives what was read first. -/
theorem reading_undoes_writing [Platform] :
    ((∀ source (a : Action), Action.ofMapping source false a.toMapping = .ok a ↔
        ∀ step ∈ a.steps, step.shell = none ∨ ∃ name ∈ Shell.names, step.shell = some name) ∧
      ∀ source source' a, ((∃ mapping, Action.ofMapping source false mapping = .ok a) ∨
          ∃ text, Action.ofText source false text = .ok a) →
        (∀ step ∈ a.steps, step.shell = none ∨ ∃ name ∈ Shell.names, step.shell = some name) ∧
          Action.ofMapping source' false a.toMapping = .ok a) ∧
    (∀ source (w : Workflow), Workflow.ofMapping source false w.toMapping = .ok w ↔
        ∀ step ∈ w.allSteps, step.shell = none ∨ ∃ name ∈ Shell.names, step.shell = some name) ∧
      ∀ source source' w, ((∃ mapping, Workflow.ofMapping source false mapping = .ok w) ∨
          ∃ text, Workflow.ofText source false text = .ok w) →
        (∀ step ∈ w.allSteps, step.shell = none ∨ ∃ name ∈ Shell.names, step.shell = some name) ∧
          Workflow.ofMapping source' false w.toMapping = .ok w := by
  simp only [← Step.hasKnownShell_iff]
  refine ⟨⟨Action.ofMapping_toMapping_iff, fun source source' a read => ?_⟩,
    Workflow.ofMapping_toMapping_iff, fun source source' w read => ?_⟩
  · obtain ⟨mapping, read⟩ := read.elim id fun ⟨text, read⟩ =>
      (exists_mapping_of_text read).imp fun _ => And.right
    obtain ⟨doc, accepted, rfl⟩ := Action.ofMapping_false_eq_ok_iff.1 read
    have known := hasKnownShell_of_action accepted
    exact ⟨known, (Action.ofMapping_toMapping_iff source' _).2 known⟩
  · obtain ⟨mapping, read⟩ := read.elim id fun ⟨text, read⟩ =>
      (exists_mapping_of_text read).imp fun _ => And.right
    obtain ⟨doc, accepted, rfl⟩ := Workflow.ofMapping_false_eq_ok_iff.1 read
    have known := hasKnownShell_of_workflow accepted
    exact ⟨known, (Workflow.ofMapping_toMapping_iff source' _).2 known⟩

end ActionRehearsal
