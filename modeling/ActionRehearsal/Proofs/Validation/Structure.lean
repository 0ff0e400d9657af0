import ActionRehearsal.Proofs.Definition.JobMatrix
import ActionRehearsal.Proofs.Schema.Given
import ActionRehearsal.Validation.Action

/-!
# The structure of a raw mapping and of the document that is read of it

The same mapping is looked at twice. `structureProblems` asks which of its values count as given, and
names the runner as it stands; a strict reading asks for the same after all values were read as texts. So
each question is answered in both ways here: a name by `ne_empty_iff_of_field`, and the runner by
`composite_iff_of_runs`.

There are two main statements. A mapping without problems that is accepted is refused by a strict reading
only if it lists no steps (`checkAction_of_no_structureProblems`). The other way round the two part at
values that are `false` or zero and at a runner that is written in bytes, and nowhere else
(`structureProblems_of_usable`); `false_name_is_reported` is a mapping where they do.
-/

set_option autoImplicit false

namespace ActionRehearsal

open ActionRehearsal.Schema Schema.Checked

/-- Whether an entry is there and is `false` or zero. -/
def hasFalseOrZero (entries : Mapping) (name : String) : Bool :=
  (Entries.get? entries (Scalar.text name)).any Value.isFalseOrZero

/-- The value that names the runner, if the runs are a mapping. -/
def runnerValue? (entries : Mapping) : Option Value :=
  (mappingUnder? entries "runs").bind fun runs => Entries.get? runs (.text "using")

/-! ## The raw mapping -/

section Raw

variable {entries : Mapping}

theorem isPresent_eq_false_iff {name : String} :
    isPresent entries name = false ↔
      Entries.get? entries (.text name) = none ∨ Entries.get? entries (.text name) = some .null := by
  rw [isPresent]
  split
  · rename_i absent
    simp [absent]
  · rename_i null
    simp [null]
  · rename_i v not_null given
    simpa [given] using not_null

theorem any_isComposite_iff :
    (Entries.get? entries (.text "runs")).any isComposite = true ↔
      runnerValue? entries = some (.text "composite") := by
  rw [runnerValue?, mappingUnder?]
  cases Entries.get? entries (.text "runs") with
  | none => simp
  | some v =>
      cases v with
      | map runs =>
          simp only [Option.any_some, Option.bind_some, Value.entries?, isComposite]
          split
          · rename_i s given
            simp [given]
          · rename_i not_text
            simpa using not_text "composite"
      | scalar | list | tuple | set => simp [isComposite, Value.entries?]

/-- A mapping that names a runner has runs that are given. -/
theorem hasGiven_of_runnerValue? {v : Value} (named : runnerValue? entries = some v) :
    hasGiven entries "runs" = true := by
  rw [runnerValue?, mappingUnder?] at named
  rw [hasGiven]
  cases given : Entries.get? entries (.text "runs") with
  | none =>
      rw [given] at named
      cases named
  | some runs =>
      rw [given] at named
      cases runs with
      | map inner =>
          -- an empty mapping names nothing
          cases inner with
          | nil => cases named
          | cons entry rest => rfl
      | scalar | list | tuple | set => cases named

/-- Which problems a mapping has. -/
theorem mem_structureProblems (entries : Mapping) :
    (.noName ∈ structureProblems entries ↔ hasGiven entries "name" = false) ∧
    (.noDescription ∈ structureProblems entries ↔ hasGiven entries "description" = false) ∧
    (.noRuns ∈ structureProblems entries ↔ hasGiven entries "runs" = false) ∧
    (.notComposite ∈ structureProblems entries ↔
      hasGiven entries "runs" = true ∧ runnerValue? entries ≠ some (.text "composite")) ∧
    (.noInputs ∈ structureProblems entries ↔ isPresent entries "inputs" = false) := by
  rw [ne_eq, ← any_isComposite_iff]
  simp [structureProblems]

end Raw

/-! ## The document -/

section Document

variable {entries : Mapping}

/-- What is read of the fields of an action that are looked at here. -/
theorem fields_of_action {doc : Noted ActionDocument} (read : action (.map entries) = .ok doc) :
    field entries ["name"] "" textOrEmpty = .ok doc.content.name ∧
    field entries ["description"] "" textOrEmpty = .ok doc.content.description ∧
    field entries ["runs"] none (optional runs) = .ok doc.content.runs := by
  obtain ⟨_, same, read, -⟩ := recordOf_eq_ok_iff.1 read
  cases same
  obtain ⟨⟨name, description, author, inputs, given⟩, read, same⟩ := map_eq_ok_iff.1 read
  simp only [both_eq_ok_iff] at read
  obtain ⟨read_name, read_description, -, -, read_runs⟩ := read
  rw [← same]
  exact ⟨read_name, read_description, read_runs⟩

/-- A text that is read of an entry is not empty exactly if the entry is given, false or zero. -/
theorem ne_empty_iff_of_field {name s : String} (read : field entries [name] "" textOrEmpty = .ok s) :
    s ≠ "" ↔ hasGiven entries name = true ∨ hasFalseOrZero entries name = true := by
  rw [field_eq_ok_iff, given?_singleton] at read
  rw [hasGiven, hasFalseOrZero]
  cases given : Entries.get? entries (.text name) with
  | none =>
      rw [given] at read
      obtain rfl : "" = s := read
      simp
  | some v =>
      rw [given] at read
      exact textOrEmpty_ne_empty_iff read

/-- So an entry of which a text is read that is not empty is given unless it is false or zero. -/
theorem hasGiven_eq_false_iff_of_field {name s : String}
    (read : field entries [name] "" textOrEmpty = .ok s) (ne : s ≠ "") :
    hasGiven entries name = false ↔ hasFalseOrZero entries name = true := by
  constructor
  · intro not_given
    rcases (ne_empty_iff_of_field read).1 ne with given | zero
    · rw [not_given] at given
      cases given
    · exact zero
  · intro zero
    rw [hasFalseOrZero, Option.any_eq_true] at zero
    obtain ⟨v, there, zero⟩ := zero
    rw [hasGiven, there]
    exact Value.isGiven_of_isFalseOrZero zero

/-- The runner that is read is the composite one exactly if the value that names it is read so. -/
theorem runner_eq_iff_of_action {doc : Noted ActionDocument} (read : action (.map entries) = .ok doc) :
    (Action.ofDocument doc.content).runner = compositeRunner ↔
      ∃ v ∈ runnerValue? entries, text v = .ok compositeRunner := by
  obtain ⟨-, -, read_runs⟩ := fields_of_action read
  have followed := rel_of_optional_field read_runs fun v noted read =>
    let ⟨inner, is_map, _⟩ := recordOf_eq_ok_iff.1 read
    ⟨inner, is_map⟩
  rw [runnerValue?, Action.ofDocument]
  generalize mappingUnder? entries "runs" = written at followed ⊢
  generalize doc.content.runs = found at followed ⊢
  cases followed with
  | none => simp [compositeRunner]
  | @some inner noted read_noted =>
      obtain ⟨_, same, read_noted, -⟩ := recordOf_eq_ok_iff.1 read_noted
      cases same
      obtain ⟨⟨runner, steps⟩, read_noted, same⟩ := map_eq_ok_iff.1 read_noted
      have read_runner := (both_eq_ok_iff.1 read_noted).1
      rw [field_eq_ok_iff, given?_singleton] at read_runner
      simp only [Option.bind_some, ← same]
      cases given : Entries.get? inner (.text "using") with
      | none =>
          rw [given] at read_runner
          obtain rfl : "" = runner := read_runner
          simp [compositeRunner]
      | some v =>
          rw [given] at read_runner
          have read_text : text v = .ok runner := read_runner
          simp [read_text]

/-- Only texts and bytes are read as texts. -/
theorem eq_of_text_eq_ok {v : Value} {s : String} (read : text v = .ok s) :
    v = .text s ∨ ∃ bs, v = .bytes bs := by
  cases v with
  | scalar scalar =>
      cases scalar with
      | text s' =>
          cases read
          exact .inl rfl
      | bytes bs => exact .inr ⟨bs, rfl⟩
      | null | bool | int | float | date | moment => cases read
  | list | map | tuple | set => cases read

/-- A document can be used exactly if it has a name, a description, composite runs and a step. -/
theorem checkAction_eq_ok_iff {source : Option String} {doc : ActionDocument} :
    checkAction source doc = .ok () ↔
      doc.name ≠ "" ∧ doc.description ≠ "" ∧ (Action.ofDocument doc).runner = compositeRunner ∧
        (Action.ofDocument doc).steps ≠ [] := by
  have met : firstUnmet? (Action.ofDocument doc).requirements = none ↔ _ := firstUnmet?_eq_none_iff
  have usable : (∀ demanded ∈ (Action.ofDocument doc).requirements, demanded.1 = true) ↔
      doc.name ≠ "" ∧ doc.description ≠ "" ∧ (Action.ofDocument doc).runner = compositeRunner ∧
        (Action.ofDocument doc).steps ≠ [] := by
    simp [Action.requirements, Action.ofDocument, compositeRunner]
  rw [checkAction, demand_eq, actionRequirements_eq, ← usable, ← met]
  cases firstUnmet? (Action.ofDocument doc).requirements with
  | none => simp
  | some requirement => simp

end Document

/-! ## The two compared -/

section Compared

variable {entries : Mapping} {doc : Noted ActionDocument}

/-- **A mapping without problems lacks at most steps.** If the raw mapping of an action has no problems
and is accepted, a strict reading finds a name, a description and composite runs in its document. So it
accepts the document if that lists a step, and else refuses it because of that alone. -/
theorem checkAction_of_no_structureProblems (read : action (.map entries) = .ok doc)
    (clean : structureProblems entries = []) (source : Option String) :
    (checkAction source doc.content =
      if (Action.ofDocument doc.content).steps = [] then .error ⟨.unmet .actionSteps, source⟩
      else .ok ()) ∧
    (ConfigError.mk (.unmet .actionSteps) source).message = "Action must have at least one step" := by
  obtain ⟨read_name, read_description, -⟩ := fields_of_action read
  obtain ⟨no_name, no_description, no_runs, not_composite, -⟩ := mem_structureProblems entries
  simp only [clean, List.not_mem_nil, false_iff, Bool.not_eq_false] at no_name no_description no_runs
  have named : doc.content.name ≠ "" := (ne_empty_iff_of_field read_name).2 (.inl no_name)
  have described : doc.content.description ≠ "" :=
    (ne_empty_iff_of_field read_description).2 (.inl no_description)
  have composite : (Action.ofDocument doc.content).runner = compositeRunner := by
    simp only [clean, List.not_mem_nil, false_iff, no_runs, true_and, ne_eq, not_not] at not_composite
    exact (runner_eq_iff_of_action read).2 ⟨_, not_composite, rfl⟩
  refine ⟨?_, rfl⟩
  by_cases steps : (Action.ofDocument doc.content).steps = []
  · -- every requirement before that of a step is met, so it is the first that is not
    rw [if_pos steps, checkAction, actionRequirements_eq]
    have named' : (Action.ofDocument doc.content).name ≠ "" := named
    have described' : (Action.ofDocument doc.content).description ≠ "" := described
    rw [compositeRunner] at composite
    simp [demand, Action.requirements, named', described', composite, steps]
  · rw [if_neg steps]
    exact checkAction_eq_ok_iff.2 ⟨named, described, composite, steps⟩

/-- A mapping with infinity as its name and without steps. -/
def steplessMapping : Mapping :=
  [(.text "name", .float (.infinite false)), (.text "description", .bool true), (.text "inputs", .map []),
    (.text "runs", .map [(.text "using", .text "composite")])]

theorem checkAction_of_no_structureProblems_stepless :
    ∃ doc, action (.map steplessMapping) = .ok doc ∧ structureProblems steplessMapping = [] ∧
      checkAction none doc.content = .error ⟨.unmet .actionSteps, none⟩ := by
  have clean : structureProblems steplessMapping = [] := by decide
  refine ⟨_, rfl, clean, ?_⟩
  exact (checkAction_of_no_structureProblems rfl clean none).1.trans (if_pos rfl)

/-- **What a strict reading accepts has problems of four kinds only.** If the document that is read of a
mapping can be used, the mapping has runs that are given. It lacks a name or a description exactly if that
is `false` or zero, it is not composite exactly if the runner is written in bytes, and it lacks inputs
exactly if there are none or null. So lacking inputs is the only problem that it can have exactly if
neither its name nor its description is `false` or zero and the runner is not in bytes. -/
theorem structureProblems_of_usable {source : Option String} (read : action (.map entries) = .ok doc)
    (usable : checkAction source doc.content = .ok ()) :
    ((∀ problem ∈ structureProblems entries, problem = .noInputs) ↔
      hasFalseOrZero entries "name" = false ∧ hasFalseOrZero entries "description" = false ∧
        ∀ bs, runnerValue? entries ≠ some (.bytes bs)) ∧
    (.noName ∈ structureProblems entries ↔ hasFalseOrZero entries "name" = true) ∧
    (.noDescription ∈ structureProblems entries ↔ hasFalseOrZero entries "description" = true) ∧
    .noRuns ∉ structureProblems entries ∧
    (.notComposite ∈ structureProblems entries ↔ ∃ bs, runnerValue? entries = some (.bytes bs)) ∧
    (.noInputs ∈ structureProblems entries ↔
      Entries.get? entries (.text "inputs") = none ∨
        Entries.get? entries (.text "inputs") = some .null) := by
  obtain ⟨read_name, read_description, -⟩ := fields_of_action read
  obtain ⟨named, described, composite, -⟩ := checkAction_eq_ok_iff.1 usable
  obtain ⟨v, runner, read_runner⟩ := (runner_eq_iff_of_action read).1 composite
  have runs_given : hasGiven entries "runs" = true := hasGiven_of_runnerValue? runner
  obtain ⟨no_name, no_description, no_runs, not_composite, no_inputs⟩ := mem_structureProblems entries
  rw [hasGiven_eq_false_iff_of_field read_name named] at no_name
  rw [hasGiven_eq_false_iff_of_field read_description described] at no_description
  rw [runs_given] at no_runs not_composite
  rw [isPresent_eq_false_iff] at no_inputs
  -- the runner is read as a text, so it is one or stands in bytes
  have in_bytes : .notComposite ∈ structureProblems entries ↔
      ∃ bs, runnerValue? entries = some (.bytes bs) := by
    rw [not_composite, Option.mem_def.1 runner]
    rcases eq_of_text_eq_ok read_runner with rfl | ⟨bs, rfl⟩
    · simp [compositeRunner]
    · simp
  refine ⟨⟨fun only => ⟨?_, ?_, ?_⟩, ?_⟩, no_name, no_description, ?_, in_bytes, no_inputs⟩
  · rw [← Bool.not_eq_true, ← no_name]
    intro there
    cases only _ there
  · rw [← Bool.not_eq_true, ← no_description]
    intro there
    cases only _ there
  · intro bs written
    cases only _ (in_bytes.2 ⟨bs, written⟩)
  · rintro ⟨name_fine, description_fine, runner_fine⟩ problem there
    cases problem with
    | noName =>
        rw [no_name, name_fine] at there
        cases there
    | noDescription =>
        rw [no_description, description_fine] at there
        cases there
    | noRuns =>
        rw [no_runs] at there
        cases there
    | notComposite =>
        obtain ⟨bs, written⟩ := in_bytes.1 there
        exact absurd written (runner_fine bs)
    | noInputs => rfl
  · intro there
    rw [no_runs] at there
    cases there

/-- A mapping that can be used, with all four kinds of problems: its name is `false`, its description is
minus zero, its runner is in bytes, and it has no inputs. -/
def oddMapping : Mapping :=
  [(.text "name", .bool false), (.text "description", .float (.zeroOf true)),
    (.text "runs", .map [(.text "using", .bytes [99, 111, 109, 112, 111, 115, 105, 116, 101]),
      (.text "steps", .list [.map []])])]

theorem structureProblems_of_usable_odd :
    ∃ doc, action (.map oddMapping) = .ok doc ∧ checkAction none doc.content = .ok () ∧
      .noName ∈ structureProblems oddMapping ∧ .noDescription ∈ structureProblems oddMapping ∧
      .notComposite ∈ structureProblems oddMapping ∧ .noInputs ∈ structureProblems oddMapping := by
  obtain ⟨doc, read, usable⟩ :
      ∃ doc, action (.map oddMapping) = .ok doc ∧ checkAction none doc.content = .ok () := ⟨_, rfl, rfl⟩
  refine ⟨doc, read, usable, ?_⟩
  obtain ⟨-, no_name, no_description, -, not_composite, no_inputs⟩ :=
    structureProblems_of_usable read usable
  exact ⟨no_name.2 rfl, no_description.2 rfl, not_composite.2 ⟨_, rfl⟩, no_inputs.2 (.inl rfl)⟩

/-- A mapping that can be used, of which the name is `false`. -/
def falseNameMapping : Mapping :=
  [(.text "name", .bool false), (.text "description", .text "d"), (.text "inputs", .map []),
    (.text "runs", .map [(.text "using", .text "composite"), (.text "steps", .list [.map []])])]

/-- A strict reading takes `false` for a name, and the structure is said to lack one. -/
theorem false_name_is_reported :
    ¬∀ (entries : Mapping) (doc : Noted ActionDocument) (source : Option String),
      action (.map entries) = .ok doc → checkAction source doc.content = .ok () →
        ∀ problem ∈ structureProblems entries, problem = .noInputs := by
  intro claim
  have reported : .noName ∈ structureProblems falseNameMapping := by decide
  cases claim falseNameMapping _ none rfl rfl .noName reported

end Compared

end ActionRehearsal
