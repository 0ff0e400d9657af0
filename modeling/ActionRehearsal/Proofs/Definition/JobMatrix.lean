import ActionRehearsal.Proofs.Definition.Rendering
import ActionRehearsal.Proofs.Definition.Strict

/-!
# The matrix that a document gives for a job

A job of a workflow has the matrix that stands in the document under `jobs`, the name of the job,
`strategy` and `matrix`, and the value of an axis is the one that counts under its name there
(`axisValue?`). The main statement is `Workflow.axes_of_text`: a workflow that is read of a text, strictly
or not, has just these matrices, with their values unchanged.
-/

set_option autoImplicit false

namespace ActionRehearsal

open ActionRehearsal.Schema Schema.Checked

/-! ## Following a document -/

/-- Moving the triggers to their proper key leaves all other fields. -/
theorem get?_withTriggersKey (entries : Mapping) {name : String} (ne : name ≠ "on") :
    Entries.get? (withTriggersKey entries) (.text name) = Entries.get? entries (.text name) := by
  have apart (key : Scalar) (other : Scalar.text name ≠ key) (k : Scalar)
      (same : (k == key) = true) : (Scalar.text name == k) = false := by
    rw [Scalar.text_beq, decide_eq_false_iff_not]
    rintro rfl
    rw [Scalar.text_beq, decide_eq_true_eq] at same
    exact other same
  have not_true : Scalar.text name ≠ .bool true := by simp
  have not_triggers : Scalar.text name ≠ triggersKey := by simpa [triggersKey] using ne
  have self : (triggersKey == triggersKey) = true := by
    rw [triggersKey, Scalar.text_beq, decide_eq_true_eq]
  unfold withTriggersKey
  split
  · rfl
  · split
    · rfl
    · rw [Entries.get?_set_of_apart (apart _ not_triggers) self,
        Entries.get?_erase_of_apart (apart _ not_true)]

/-- The entries of a value that is a mapping. -/
def Value.entries? : Value → Option Mapping
  | .map entries => some entries
  | _ => none

/-- The mapping under the name of a field, if there is one. -/
def mappingUnder? (entries : Mapping) (name : String) : Option Mapping :=
  (Entries.get? entries (.text name)).bind Value.entries?

/-- The mapping of a job in a document. -/
def jobMapping? (document : Mapping) (job : String) : Option Mapping :=
  (mappingUnder? document "jobs").bind fun jobs => (named? jobs job).bind Value.entries?

/-- The matrix of a job in a document. -/
def matrixMapping? (document : Mapping) (job : String) : Option Mapping :=
  (jobMapping? document job).bind fun job =>
    (mappingUnder? job "strategy").bind fun strategy => mappingUnder? strategy "matrix"

/-- The value that a document gives for an axis of the matrix of a job. -/
def axisValue? (document : Mapping) (job axis : String) : Option Value :=
  (matrixMapping? document job).bind fun matrix => named? matrix axis

theorem rel_bind {α β γ δ : Type} {r : α → β → Prop} {s : γ → δ → Prop} {a? : Option α}
    {b? : Option β} (related : Option.Rel r a? b?) {f : α → Option γ} {g : β → Option δ}
    (step : ∀ a b, r a b → Option.Rel s (f a) (g b)) : Option.Rel s (a?.bind f) (b?.bind g) := by
  cases related with
  | none => exact .none
  | some related => exact step _ _ related

section Fields

variable {α : Type} {check : Value → Checked α} {entries : Mapping} {name : String}

/-- A field that may be null is read in the mapping under its name, if only mappings are read. -/
theorem rel_of_optional_field {found : Option α}
    (h : field entries [name] none (optional check) = .ok found)
    (maps : ∀ v a, check v = .ok a → ∃ inner, v = .map inner) :
    Option.Rel (fun inner a => check (.map inner) = .ok a) (mappingUnder? entries name) found := by
  rw [field_eq_ok_iff, given?_singleton] at h
  rw [mappingUnder?]
  cases given : Entries.get? entries (.text name) with
  | none =>
      rw [given] at h
      obtain rfl : none = found := h
      exact .none
  | some v =>
      rw [given] at h
      rcases optional_eq_ok_iff.1 h with ⟨rfl, rfl⟩ | ⟨-, a, read, rfl⟩
      · exact .none
      · obtain ⟨inner, rfl⟩ := maps v a read
        exact .some read

end Fields

/-! ## What is read of a document -/

theorem rel_matrix_of_strategy {entries : Mapping} {noted : Noted Strategy}
    (h : strategy (.map entries) = .ok noted) :
    Option.Rel (fun inner t => tableOf anything (.map inner) = .ok t) (mappingUnder? entries "matrix")
      noted.content.matrix := by
  obtain ⟨_, e, read, -⟩ := recordOf_eq_ok_iff.1 h
  cases e
  obtain ⟨matrix, read, e⟩ := map_eq_ok_iff.1 read
  rw [← e]
  exact rel_of_optional_field read fun v t => exists_entries_of_tableOf

theorem rel_matrix_of_job {entries : Mapping} {noted : Noted JobDocument}
    (h : job (.map entries) = .ok noted) :
    Option.Rel (fun inner t => tableOf anything (.map inner) = .ok t)
      ((mappingUnder? entries "strategy").bind fun strategy => mappingUnder? strategy "matrix")
      (Job.ofDocument noted.content).matrix := by
  obtain ⟨_, e, read, -⟩ := recordOf_eq_ok_iff.1 h
  cases e
  obtain ⟨⟨runsOn, given, steps⟩, read, e⟩ := map_eq_ok_iff.1 read
  simp only [both_eq_ok_iff] at read
  obtain ⟨-, read_strategy, -⟩ := read
  have followed := rel_of_optional_field read_strategy fun v noted read =>
    let ⟨entries, is_map, _⟩ := recordOf_eq_ok_iff.1 read
    ⟨entries, is_map⟩
  rw [Job.ofDocument, ← e]
  exact rel_bind followed fun inner noted => rel_matrix_of_strategy

theorem rel_of_jobs_field {entries : Mapping} {t : Table String (Noted JobDocument)}
    (h : field entries ["jobs"] {} jobs = .ok t) (name : String) :
    Option.Rel (fun inner noted => job (.map inner) = .ok noted) (jobMapping? entries name)
      (t.get? name) := by
  rw [field_eq_ok_iff, given?_singleton] at h
  rw [jobMapping?, mappingUnder?]
  cases given : Entries.get? entries (.text "jobs") with
  | none =>
      rw [given] at h
      obtain rfl : {} = t := h
      exact .none
  | some v =>
      rw [given] at h
      have read : jobs v = .ok t := h
      unfold jobs at read
      split at read
      -- jobs that are null count as none
      · cases read
        exact .none
      · obtain ⟨inner, rfl⟩ := exists_entries_of_tableOf read
        have same := get?_of_tableOf read name
        show Option.Rel _ ((named? inner name).bind Value.entries?) (t.get? name)
        cases written : named? inner name with
        | none =>
            rw [written, Option.map_none, Option.map_eq_none_iff] at same
            rw [same]
            exact .none
        | some v =>
            rw [written, Option.map_some, Option.map_eq_some_iff] at same
            obtain ⟨noted, held, read_job⟩ := same
            obtain ⟨entries, rfl, -⟩ := recordOf_eq_ok_iff.1 read_job.symm
            rw [held]
            exact .some read_job.symm

/-- The matrix of a job is read in the mapping that the document has for it. -/
theorem rel_matrix_of_workflow {entries : Mapping} {noted : Noted WorkflowDocument}
    (h : workflow (.map entries) = .ok noted) (job : String) :
    Option.Rel (fun inner t => tableOf anything (.map inner) = .ok t) (matrixMapping? entries job)
      (((Workflow.ofDocument noted.content).jobs.get? job).bind (·.matrix)) := by
  obtain ⟨_, e, read, -⟩ := recordOf_eq_ok_iff.1 h
  cases e
  obtain ⟨⟨name, triggers, permissions, given⟩, read, e⟩ := map_eq_ok_iff.1 read
  simp only [both_eq_ok_iff] at read
  obtain ⟨-, -, -, read_jobs⟩ := read
  rw [Workflow.ofDocument, ← e, Table.get?_mapValues, Option.bind_map]
  exact rel_bind (rel_of_jobs_field read_jobs job) fun inner noted => rel_matrix_of_job

/-- The keys of a matrix are read as texts, and its values are kept. -/
theorem get?_of_matrix {entries : Mapping} {t : Table String Value}
    (h : tableOf anything (.map entries) = .ok t) (axis : String) :
    t.get? axis = named? entries axis := by
  have same := get?_of_tableOf h axis
  have kept : anything = Except.ok := rfl
  rw [kept] at same
  exact Option.map_injective (fun _ _ => Except.ok.inj) same

theorem matrixMapping?_withTriggersKey (document : Mapping) (job : String) :
    matrixMapping? (withTriggersKey document) job = matrixMapping? document job := by
  simp only [matrixMapping?, jobMapping?, mappingUnder?,
    get?_withTriggersKey document (show "jobs" ≠ "on" by decide)]

section Read

variable {source : Option String} {strict : Bool} {text : String} {w : Workflow}

/-- What a strict reading gives, a lenient one gives too. -/
theorem Workflow.ofText_false_of_ofText [Platform] (read : Workflow.ofText source strict text = .ok w) :
    Workflow.ofText source false text = .ok w := by
  cases strict with
  | false => exact read
  | true =>
      rw [DocumentKind.ofText_workflows, DocumentKind.ofText_true workflowRequirements_eq] at read
      exact (bind_demanding_eq_ok_iff.1 read).1

/-- **The axes of a workflow are those of its document.** A text of which a workflow is read, strictly or
not, is loaded as a document; the workflow has a matrix for the jobs for which the document has one, and
an axis of it has the very value that counts in the document. -/
theorem Workflow.axes_of_text [Platform] (read : Workflow.ofText source strict text = .ok w) :
    ∃ document, mappingOfText source text = .ok document ∧ ∀ job,
      ((w.jobs.get? job).bind (·.matrix)).isSome = (matrixMapping? document job).isSome ∧
        ∀ axis, (((w.jobs.get? job).bind (·.matrix)).bind fun matrix => matrix.get? axis) =
          axisValue? document job axis := by
  have lenient := Workflow.ofText_false_of_ofText read
  obtain ⟨document, loaded, accepted⟩ := exists_mapping_of_text lenient
  obtain ⟨noted, checked, rfl⟩ := Workflow.ofMapping_false_eq_ok_iff.1 accepted
  refine ⟨document, loaded, ?_⟩
  intro job
  have followed := rel_matrix_of_workflow checked job
  rw [matrixMapping?_withTriggersKey] at followed
  simp only [axisValue?]
  generalize matrixMapping? document job = written at followed ⊢
  generalize ((Workflow.ofDocument noted.content).jobs.get? job).bind (·.matrix) = given at followed ⊢
  cases followed with
  | none => exact ⟨rfl, fun axis => rfl⟩
  | some matrix_read => exact ⟨rfl, get?_of_matrix matrix_read⟩

end Read

end ActionRehearsal
