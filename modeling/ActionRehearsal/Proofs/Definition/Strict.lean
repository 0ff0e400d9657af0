import ActionRehearsal.Definition.Reading

/-!
# Strict reading is lenient reading with a check of the result

What a strict reading demands it checks on the document, before there is a definition: there the
runs of an action and the triggers of a workflow may be left out or null. The same can be read off
the definition (`Action.requirements`, `Workflow.requirements`), since what is left out of a
document is empty in the definition.

The main statement, `ofText_strict`, says by the lenient reading alone what the strict one gives.
-/

set_option autoImplicit false

namespace ActionRehearsal

open ActionRehearsal.Schema

/-! ## Requirements -/

/-- The first requirement of a list that is not met. -/
def firstUnmet? : List (Bool × Requirement) → Option Requirement
  | [] => none
  | (met, requirement) :: rest => if met then firstUnmet? rest else some requirement

theorem demand_eq (source : Option String) (requirements : List (Bool × Requirement)) :
    demand source requirements =
      match firstUnmet? requirements with
      | none => .ok ()
      | some requirement => .error ⟨.unmet requirement, source⟩ := by
  induction requirements with
  | nil => rfl
  | cons first rest ih =>
      obtain ⟨met, requirement⟩ := first
      cases met with
      | true => exact ih
      | false => rfl

theorem firstUnmet?_eq_none_iff {requirements : List (Bool × Requirement)} :
    firstUnmet? requirements = none ↔ ∀ demanded ∈ requirements, demanded.1 = true := by
  induction requirements with
  | nil => simp [firstUnmet?]
  | cons first rest ih =>
      obtain ⟨met, requirement⟩ := first
      cases met with
      | true => simp [firstUnmet?, ih]
      | false => simp [firstUnmet?]

/-- What a usable action has, read off the action. -/
def Action.requirements (a : Action) : List (Bool × Requirement) :=
  [(a.name != "", .actionName), (a.description != "", .actionDescription),
    (a.runner == "composite", .compositeRuns), (!a.steps.isEmpty, .actionSteps)]

/-- What a usable workflow has, read off the workflow. -/
def Workflow.requirements (w : Workflow) : List (Bool × Requirement) :=
  [(w.name != "", .workflowName), (!w.triggers.isEmpty, .workflowTriggers),
    (!w.jobs.isEmpty, .workflowJobs)]

/-- A document meets what the action that it describes meets. -/
theorem actionRequirements_eq (doc : ActionDocument) :
    actionRequirements doc = (Action.ofDocument doc).requirements := by
  obtain ⟨name, description, author, inputs, runs⟩ := doc
  cases runs with
  -- without runs the action has an empty runner and no steps
  | none => rfl
  | some runs =>
      simp only [actionRequirements, Action.requirements, Action.ofDocument, Option.map_some,
        Option.any_some, List.isEmpty_map, compositeRunner]

/-- A document meets what the workflow that it describes meets. -/
theorem workflowRequirements_eq (doc : WorkflowDocument) :
    workflowRequirements doc = (Workflow.ofDocument doc).requirements := by
  obtain ⟨name, triggers, permissions, jobs⟩ := doc
  have hjobs : ∀ describe : Noted JobDocument → Job,
      (jobs.mapValues describe).isEmpty = jobs.isEmpty := fun describe => by
    simp only [Table.isEmpty, Table.mapValues, List.isEmpty_map]
  -- triggers that are left out are the empty table of the workflow
  cases triggers with
  | none => simp only [workflowRequirements, Workflow.requirements, Workflow.ofDocument, hjobs]; rfl
  | some triggers =>
      simp only [workflowRequirements, Workflow.requirements, Workflow.ofDocument, hjobs,
        Option.any_some, Option.getD_some]

/-! ## Readings -/

/-- How the documents of a kind become definitions: the check of a loaded mapping, what a document
of a usable definition has, and the definition that a document describes. -/
structure DocumentKind (δ α : Type) where
  check : Mapping → Checked (Noted δ)
  requirements : δ → List (Bool × Requirement)
  describe : δ → α

namespace DocumentKind

variable {δ α : Type} (documents : DocumentKind δ α)

/-- The definition of a loaded mapping. -/
def ofMapping (source : Option String) (strict : Bool) (mapping : Mapping) :
    Except ConfigError α := do
  let doc ← accepted source (documents.check mapping)
  if strict then demand source (documents.requirements doc.content)
  return documents.describe doc.content

/-- The definition of a text. -/
def ofText [Platform] (source : Option String) (strict : Bool) (text : String) : Except ReadFault α := do
  let mapping ← mappingOfText source text
  (documents.ofMapping source strict mapping).mapError .refused

/-- The documents of actions. -/
def actions : DocumentKind ActionDocument Action where
  check mapping := action (.map mapping)
  requirements := actionRequirements
  describe := Action.ofDocument

/-- The documents of workflows. -/
def workflows : DocumentKind WorkflowDocument Workflow where
  check mapping := workflow (.map (withTriggersKey mapping))
  requirements := workflowRequirements
  describe := Workflow.ofDocument

theorem ofText_actions [Platform] (source : Option String) (strict : Bool) (text : String) :
    Action.ofText source strict text = actions.ofText source strict text := rfl

theorem ofText_workflows [Platform] (source : Option String) (strict : Bool) (text : String) :
    Workflow.ofText source strict text = workflows.ofText source strict text := rfl

end DocumentKind

/-- A definition that meets its requirements, or else the first one that it does not meet, as an
error. -/
def demanding {α : Type} (source : Option String) (requirements : α → List (Bool × Requirement))
    (definition : α) : Except ReadFault α :=
  match firstUnmet? (requirements definition) with
  | none => .ok definition
  | some requirement => .error (.refused ⟨.unmet requirement, source⟩)

/-- If documents meet what the definitions meet that they describe, a strict reading is the lenient
one, of which the result is then checked. -/
theorem DocumentKind.ofText_true [Platform] {δ α : Type} {documents : DocumentKind δ α}
    {requirements : α → List (Bool × Requirement)}
    (same : ∀ doc, documents.requirements doc = requirements (documents.describe doc))
    (source : Option String) (text : String) :
    documents.ofText source true text =
      (documents.ofText source false text).bind (demanding source requirements) := by
  rw [ofText, ofText]
  -- loading and checking are the same in both readings
  cases mappingOfText source text with
  | error fault => rfl
  | ok mapping =>
      simp only [ofMapping, bind, Except.bind, pure, Except.pure]
      cases accepted source (documents.check mapping) with
      | error e => rfl
      | ok doc =>
          change _ = demanding source requirements (documents.describe doc.content)
          simp only [demand_eq, same, demanding, if_true]
          cases firstUnmet? (requirements (documents.describe doc.content)) with
          | none => rfl
          | some requirement => rfl

/-- A definition is one that a document describes which is accepted, and which meets its requirements if the
reading is strict. -/
theorem DocumentKind.ofMapping_eq_ok_iff {δ α : Type} {documents : DocumentKind δ α}
    {source : Option String} {strict : Bool} {mapping : Mapping} {definition : α} :
    documents.ofMapping source strict mapping = .ok definition ↔
      ∃ noted, documents.check mapping = .ok noted ∧ documents.describe noted.content = definition ∧
        (strict = true → firstUnmet? (documents.requirements noted.content) = none) := by
  rw [ofMapping]
  cases documents.check mapping with
  | error problems =>
      constructor
      · intro read
        cases read
      · rintro ⟨noted, checked, -⟩
        cases checked
  | ok noted =>
      cases strict with
      | false =>
          change Except.ok (documents.describe noted.content) = Except.ok definition ↔ _
          simp
      | true =>
          change (demand source (documents.requirements noted.content)).bind (fun _ =>
            .ok (documents.describe noted.content)) = Except.ok definition ↔ _
          rw [demand_eq]
          cases unmet : firstUnmet? (documents.requirements noted.content) with
          | none => simp [Except.bind, unmet]
          | some requirement => simp [Except.bind, unmet]

section Demanding

variable {α : Type} {source : Option String} {requirements : α → List (Bool × Requirement)}

/-- A definition passes exactly if no requirement is unmet. -/
theorem bind_demanding_eq_ok_iff {lenient : Except ReadFault α} {definition : α} :
    lenient.bind (demanding source requirements) = .ok definition ↔
      lenient = .ok definition ∧ firstUnmet? (requirements definition) = none := by
  cases lenient with
  | error fault => simp [Except.bind]
  | ok read =>
      simp only [Except.bind, demanding]
      cases unmet : firstUnmet? (requirements read) with
      | none =>
          constructor
          · intro h
            obtain rfl := Except.ok.inj h
            exact ⟨rfl, unmet⟩
          · exact fun h => h.1
      | some requirement =>
          constructor
          · intro h
            cases h
          · rintro ⟨h, none⟩
            obtain rfl := Except.ok.inj h
            rw [unmet] at none
            cases none

theorem bind_demanding_of_unmet {lenient : Except ReadFault α} {definition : α}
    {requirement : Requirement} (read : lenient = .ok definition)
    (unmet : firstUnmet? (requirements definition) = some requirement) :
    lenient.bind (demanding source requirements) =
      .error (.refused ⟨.unmet requirement, source⟩) := by
  rw [read]
  simp only [Except.bind, demanding, unmet]

end Demanding

/-- **A strict reading is a lenient one with a check that can be read off the definition.** The
strict reading gives a definition exactly if the lenient one gives it and it has what a usable one
must have. If the lenient reading fails, the strict one fails in the same way; and if a requirement
is not met by what the lenient one gives, the strict one reports the first such requirement, in the
order in which they are listed, with the source that was given. -/
theorem ofText_strict [Platform] (source : Option String) (text : String) :
    ((∀ a, Action.ofText source true text = .ok a ↔
        Action.ofText source false text = .ok a ∧
          a.name ≠ "" ∧ a.description ≠ "" ∧ a.runner = "composite" ∧ a.steps ≠ []) ∧
      (∀ fault, Action.ofText source false text = .error fault →
        Action.ofText source true text = .error fault) ∧
      ∀ a requirement, Action.ofText source false text = .ok a →
        firstUnmet? a.requirements = some requirement →
          Action.ofText source true text = .error (.refused ⟨.unmet requirement, source⟩)) ∧
    (∀ w, Workflow.ofText source true text = .ok w ↔
        Workflow.ofText source false text = .ok w ∧
          w.name ≠ "" ∧ w.triggers.entries ≠ [] ∧ w.jobs.entries ≠ []) ∧
      (∀ fault, Workflow.ofText source false text = .error fault →
        Workflow.ofText source true text = .error fault) ∧
      ∀ w requirement, Workflow.ofText source false text = .ok w →
        firstUnmet? w.requirements = some requirement →
          Workflow.ofText source true text = .error (.refused ⟨.unmet requirement, source⟩) := by
  rw [DocumentKind.ofText_actions, DocumentKind.ofText_actions, DocumentKind.ofText_workflows,
    DocumentKind.ofText_workflows, DocumentKind.ofText_true actionRequirements_eq,
    DocumentKind.ofText_true workflowRequirements_eq]
  refine ⟨⟨fun a => ?_, fun fault failed => ?_, fun a requirement => bind_demanding_of_unmet⟩,
    fun w => ?_, fun fault failed => ?_, fun w requirement => bind_demanding_of_unmet⟩
  · rw [bind_demanding_eq_ok_iff, firstUnmet?_eq_none_iff]
    simp [Action.requirements]
  · rw [failed]
    rfl
  · rw [bind_demanding_eq_ok_iff, firstUnmet?_eq_none_iff]
    simp [Workflow.requirements, Table.isEmpty]
  · rw [failed]
    rfl

end ActionRehearsal
