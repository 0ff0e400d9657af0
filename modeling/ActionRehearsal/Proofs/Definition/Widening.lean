import ActionRehearsal.Proofs.Definition.Strict
import ActionRehearsal.Proofs.Schema.Widening

/-!
# Entries of other names do not matter

What is read of a record keeps the entries of other names apart from its content, and a definition is made
of the content alone. So the check of a widened document comes to the same up to those entries, from inputs
and steps (`alike_input`, `alike_step`) to the whole action and workflow (`alike_action`,
`alike_workflow`). The triggers of a workflow that stand under the boolean true are moved in a widened
document as in the other (`Widened.withTriggersKey`).

The main statement is `ofMapping_widened`: the outcome of a reading is the same, whether that is a
definition or an error.
-/

set_option autoImplicit false

namespace ActionRehearsal

open ActionRehearsal.Schema Schema.Checked

/-! ## Actions -/

/-- The runner and the steps of runs, without what else the steps hold. -/
def Schema.Runs.plain (runs : Runs) : String × List Step :=
  (runs.runner, runs.steps.map (·.content))

/-- The inputs, the runner and the steps of an action are those of its document without what else that
holds. -/
theorem Action.ofDocument_eq (doc : ActionDocument) :
    Action.ofDocument doc =
      { name := doc.name, description := doc.description, author := doc.author
        inputs := doc.inputs.mapValues (·.content)
        runner := ((doc.runs.map (·.content.plain)).getD ("", [])).1
        steps := ((doc.runs.map (·.content.plain)).getD ("", [])).2 } := by
  obtain ⟨name, description, author, inputs, runs⟩ := doc
  cases runs with
  | none => rfl
  | some runs => rfl

section Actions

variable {v v' : Value}

theorem alike_input (widened : WidenedInput v v') : Alike (·.content) (input v) (input v') := by
  refine widened.alike (f := id) fun entries entries' widened => .of_eq ?_
  rw [widened.field_eq_of_fixed (by decide), widened.field_eq_of_fixed (by decide),
    widened.field_eq_of_fixed (by decide)]

theorem alike_step (widened : WidenedStep v v') : Alike (·.content) (step v) (step v') := by
  refine widened.alike (f := id) fun entries entries' widened => .of_eq ?_
  rw [widened.field_eq_of_fixed (by decide), widened.field_eq_of_fixed (by decide),
    widened.field_eq_of_fixed (by decide), widened.field_eq_of_fixed (by decide),
    widened.field_eq_of_fixed (by decide), widened.field_eq_of_fixed (by decide),
    widened.field_eq_of_fixed (by decide)]

theorem alike_steps (widened : WidenedItems WidenedStep v v') :
    Alike (List.map (·.content)) (steps v) (steps v') := by
  have read := widened.alike fun _ _ => alike_step
  -- null counts as no steps, which only a value that does not change can be
  cases widened with
  | same => exact .refl _ _
  | list widened => exact read
  | tuple widened => exact read

theorem alike_runs (widened : WidenedRuns v v') : Alike (·.content.plain) (runs v) (runs v') := by
  refine widened.alike (f := Runs.plain) fun entries entries' widened => ?_
  refine Alike.map (f := Prod.map id (List.map (·.content))) (.both ?runner ?steps) ?plain
  case runner => exact .of_eq (widened.field_eq (by decide) (by simp [runsParts]))
  case steps => exact widened.field_of_name (by decide) fun _ _ => alike_steps
  case plain =>
    rintro ⟨runner, steps⟩ ⟨runner', steps'⟩ same
    exact same

/-- Inputs without a body are not widened, and get the same empty body. -/
theorem widenedTable_withBodies (widened : WidenedTable WidenedInput v v') :
    WidenedTable WidenedInput (withBodies v) (withBodies v') := by
  cases widened with
  | same => exact .same _
  | table widened =>
      refine .table (List.forall₂_map_left_iff.2 (List.forall₂_map_right_iff.2 (widened.imp ?_)))
      rintro ⟨key, v⟩ ⟨key', v'⟩ ⟨same, part⟩
      refine ⟨same, ?_⟩
      cases part with
      | same => exact .same _
      | record widened => exact .record widened

theorem alike_inputs (widened : WidenedTable WidenedInput v v') :
    Alike (Table.mapValues (·.content)) (inputs v) (inputs v') := by
  have read := (widenedTable_withBodies widened).alike fun _ _ => alike_input
  cases widened with
  | same => exact .refl _ _
  | table widened => exact read

theorem alike_action {entries entries' : Mapping} (widened : WidenedAction entries entries') :
    Alike (fun noted => Action.ofDocument noted.content) (action (.map entries))
      (action (.map entries')) := by
  refine WidenedRecord.alike (f := Action.ofDocument) (.record widened) ?_
  intro entries entries' widened
  refine Alike.map
    (f := Prod.map id (Prod.map id (Prod.map id (Prod.map (Table.mapValues (·.content))
      (Option.map (·.content.plain))))))
    (.both ?name (.both ?description (.both ?author (.both ?inputs ?runs)))) ?described
  case name | description | author =>
    exact .of_eq (widened.field_eq (by decide) (by simp [actionParts]))
  case inputs => exact widened.field_of_name (by decide) fun _ _ => alike_inputs
  case runs =>
    exact widened.field_of_name (by decide) fun v v' part =>
      WidenedRecord.alike_optional part (alike_runs part)
  case described =>
    rintro ⟨name, description, author, inputs, runs⟩ ⟨name', description', author', inputs', runs'⟩ same
    simp only [Prod.map_apply, Prod.mk.injEq, id] at same
    obtain ⟨rfl, rfl, rfl, same_inputs, same_runs⟩ := same
    simp only [Action.ofDocument_eq, same_inputs, same_runs]

end Actions

/-! ## Workflows -/

section Workflows

variable {v v' : Value}

theorem alike_strategy (widened : WidenedStrategy v v') :
    Alike (·.content) (strategy v) (strategy v') := by
  refine widened.alike (f := id) fun entries entries' widened => .of_eq ?_
  rw [widened.field_eq_of_fixed (by decide)]

theorem alike_job (widened : WidenedJob v v') :
    Alike (fun noted => Job.ofDocument noted.content) (job v) (job v') := by
  refine widened.alike (f := Job.ofDocument) fun entries entries' widened => ?_
  refine Alike.map (f := Prod.map id (Prod.map (Option.map (·.content)) (List.map (·.content))))
    (.both ?machines (.both ?strategy ?steps)) ?described
  case machines => exact .of_eq (widened.field_eq (by decide) (by simp [jobParts]))
  case strategy =>
    exact widened.field_of_name (by decide) fun v v' part =>
      WidenedRecord.alike_optional part (alike_strategy part)
  case steps => exact widened.field_of_name (by decide) fun _ _ => alike_steps
  case described =>
    rintro ⟨runsOn, strategy, steps⟩ ⟨runsOn', strategy', steps'⟩ same
    simp only [Prod.map_apply, Prod.mk.injEq, id] at same
    obtain ⟨rfl, same_strategy, same_steps⟩ := same
    have same_matrix := congrArg (Option.bind · Strategy.matrix) same_strategy
    simp only [Option.bind_map] at same_matrix
    simp only [Job.ofDocument, same_steps]
    exact congrArg (Job.mk runsOn · _) same_matrix

theorem alike_jobs (widened : WidenedTable WidenedJob v v') :
    Alike (Table.mapValues fun noted => Job.ofDocument noted.content) (jobs v) (jobs v') := by
  have read := widened.alike fun _ _ => alike_job
  cases widened with
  | same => exact .refl _ _
  | table widened => exact read

theorem alike_workflow {entries entries' : Mapping} (widened : WidenedWorkflow entries entries') :
    Alike (fun noted => Workflow.ofDocument noted.content) (workflow (.map entries))
      (workflow (.map entries')) := by
  refine WidenedRecord.alike (f := Workflow.ofDocument) (.record widened) ?_
  intro entries entries' widened
  refine Alike.map
    (f := Prod.map id (Prod.map id (Prod.map id (Table.mapValues fun noted => Job.ofDocument noted.content))))
    (.both ?name (.both ?triggers (.both ?permissions ?jobs))) ?described
  case name | triggers | permissions =>
    exact .of_eq (widened.field_eq (by decide) (by simp [workflowParts]))
  case jobs => exact widened.field_of_name (by decide) fun _ _ => alike_jobs
  case described =>
    rintro ⟨name, triggers, permissions, jobs⟩ ⟨name', triggers', permissions', jobs'⟩ same
    simp only [Prod.map_apply, Prod.mk.injEq, id] at same
    obtain ⟨rfl, rfl, rfl, same_jobs⟩ := same
    simp only [Workflow.ofDocument, same_jobs]

/-- The triggers move to their proper key in a widened workflow exactly if they do in the other. -/
theorem Schema.Widened.withTriggersKey {entries entries' : Mapping}
    (widened : WidenedWorkflow entries entries') :
    WidenedWorkflow (withTriggersKey entries) (withTriggersKey entries') := by
  have not_text (s : String) : Scalar.text s ≠ .bool true := nofun
  have known : ∃ names ∈ workflowFields, "on" ∈ names := ⟨["on"], by decide, by decide⟩
  -- nothing is put in under true, which is no text, nor under the proper key, which is a field
  have same_true := widened.get?_eq not_text
  have same_proper : Entries.has entries triggersKey = Entries.has entries' triggersKey := by
    have found := widened.get? known
    rw [Entries.has, Entries.has, triggersKey]
    generalize Entries.get? entries (.text "on") = v? at found ⊢
    generalize Entries.get? entries' (.text "on") = v?' at found ⊢
    cases found with
    | none => rfl
    | some part => rfl
  rw [ActionRehearsal.withTriggersKey, ActionRehearsal.withTriggersKey, ← same_true, ← same_proper]
  cases Entries.get? entries (.bool true) with
  | none => exact widened
  | some v =>
      cases Entries.has entries triggersKey with
      | true => exact widened
      | false => exact (widened.erase not_text).set known rfl

end Workflows

/-! ## Readings -/

/-- Documents of the same definition, or with the same problems, are read with the same outcome. -/
theorem DocumentKind.ofMapping_eq_of_alike {δ α : Type} {documents : DocumentKind δ α}
    {requirements : α → List (Bool × Requirement)}
    (same : ∀ doc, documents.requirements doc = requirements (documents.describe doc))
    {mapping mapping' : Mapping} (alike : Alike (fun noted => documents.describe noted.content)
      (documents.check mapping) (documents.check mapping'))
    (source : Option String) (strict : Bool) :
    documents.ofMapping source strict mapping = documents.ofMapping source strict mapping' := by
  rw [ofMapping, ofMapping]
  generalize documents.check mapping = read at alike ⊢
  generalize documents.check mapping' = read' at alike ⊢
  cases alike with
  | ok described =>
      simp only [accepted, Except.mapError, bind, Except.bind, pure, Except.pure, same, described]
  | error problems => rfl

/-- **Entries of other names do not matter.** If entries are put into the mapping of an action or of a
workflow, or into a record inside of it, under names that no field of that record has, wherever and with
whatever values, then a reading of the mapping has the same outcome, strictly or not: the same definition,
or the same error. -/
theorem ofMapping_widened :
    (∀ entries entries', WidenedAction entries entries' → ∀ source strict,
      Action.ofMapping source strict entries' = Action.ofMapping source strict entries) ∧
    ∀ entries entries', WidenedWorkflow entries entries' → ∀ source strict,
      Workflow.ofMapping source strict entries' = Workflow.ofMapping source strict entries := by
  constructor
  · intro entries entries' widened source strict
    exact (DocumentKind.actions.ofMapping_eq_of_alike actionRequirements_eq (alike_action widened)
      source strict).symm
  · intro entries entries' widened source strict
    exact (DocumentKind.workflows.ofMapping_eq_of_alike workflowRequirements_eq
      (alike_workflow (Schema.Widened.withTriggersKey widened)) source strict).symm

/-- An action with an input and a step that both say nothing. -/
def sparseAction : Mapping :=
  [(.text "name", .text "a"), (.text "inputs", .map [(.text "token", .map [])]),
    (.text "runs", .map [(.text "using", .text "composite"), (.text "steps", .list [.map []])])]

/-- It with an entry of another name in each of its records. -/
def sparseActionWithNotes : Mapping :=
  [(.text "branding", .list []), (.text "name", .text "a"),
    (.text "inputs", .map [(.text "token", .map [(.text "secret", .bool true)])]),
    (.text "runs", .map [(.text "using", .text "composite"), (.text "main", .null),
      (.text "steps", .list [.map [(.text "env", .map [])]])])]

/-- A workflow whose triggers stand under true, with a job of one step. -/
def sparseWorkflow : Mapping :=
  [(.bool true, .text "push"),
    (.text "jobs", .map [(.text "test", .map [(.text "strategy", .map []),
      (.text "steps", .list [.map []])])])]

/-- It with an entry of another name in each of its records. -/
def sparseWorkflowWithNotes : Mapping :=
  [(.bool true, .text "push"), (.text "env", .map []),
    (.text "jobs", .map [(.text "test", .map [(.text "needs", .text "build"),
      (.text "strategy", .map [(.text "fail-fast", .bool false)]),
      (.text "steps", .list [.map [(.text "timeout", .null)]])])])]

theorem widenedAction_sparse : WidenedAction sparseAction sparseActionWithNotes := by
  have token : WidenedInput (.map []) (.map [(.text "secret", .bool true)]) :=
    .record (.insert (by decide) _ .nil)
  have step : WidenedStep (.map []) (.map [(.text "env", .map [])]) :=
    .record (.insert (by decide) _ .nil)
  refine .insert (by decide) _ (.keep ?name (.keep ?inputs (.keep ?runs .nil)))
  case name => rfl
  case inputs => exact .table (.cons ⟨rfl, token⟩ .nil)
  case runs =>
    refine .record (.keep ?runner (.insert (by decide) _ (.keep ?steps .nil)))
    case runner => rfl
    case steps => exact .list (.cons step .nil)

theorem widenedWorkflow_sparse : WidenedWorkflow sparseWorkflow sparseWorkflowWithNotes := by
  have strategy : WidenedStrategy (.map []) (.map [(.text "fail-fast", .bool false)]) :=
    .record (.insert (by decide) _ .nil)
  have step : WidenedStep (.map []) (.map [(.text "timeout", .null)]) :=
    .record (.insert (by decide) _ .nil)
  refine .keep ?triggers (.insert (by decide) _ (.keep ?jobs .nil))
  case triggers => rfl
  case jobs =>
    refine .table (.cons ⟨rfl, .record (.insert (by decide) _ ?rest)⟩ .nil)
    refine .keep ?strategy (.keep ?steps .nil)
    case strategy => exact strategy
    case steps => exact .list (.cons step .nil)

/-- Entries of other names in every record of an action that is refused, since it has no description, and
of a workflow that is accepted. -/
theorem ofMapping_widened_everywhere :
    (WidenedAction sparseAction sparseActionWithNotes ∧
      Action.ofMapping none true sparseActionWithNotes = Action.ofMapping none true sparseAction ∧
      Action.ofMapping none true sparseAction = .error ⟨.unmet .actionDescription, none⟩) ∧
    WidenedWorkflow sparseWorkflow sparseWorkflowWithNotes ∧
      Workflow.ofMapping none false sparseWorkflowWithNotes =
        Workflow.ofMapping none false sparseWorkflow ∧
      ∃ w, Workflow.ofMapping none false sparseWorkflow = .ok w := by
  obtain ⟨actions, workflows⟩ := ofMapping_widened
  refine ⟨⟨widenedAction_sparse, ?_, ?_⟩, widenedWorkflow_sparse, ?_, ?_⟩
  · exact actions _ _ widenedAction_sparse none true
  · rfl
  · exact workflows _ _ widenedWorkflow_sparse none false
  · exact ⟨_, rfl⟩

end ActionRehearsal
