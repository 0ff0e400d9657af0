import ActionRehearsal.Proofs.CommandLine.Pairs
import ActionRehearsal.Proofs.CommandLine.Results
import ActionRehearsal.Proofs.Definition.Rendering
import ActionRehearsal.Proofs.Placeholder

/-!
# The inputs of a rehearsal

The value of an input is what the last argument of that name gives it, or else its default, if it is
declared with one (`EffectiveValue`). This also holds for a name that no input is declared with, and an
argument that gives the empty value wins over a default that is not empty. The inputs that a run makes of
its arguments are exactly these (`get?_effectiveInputs_iff`).

The main statement, `run_checks_inputs`, is that a run is stopped exactly if some required input has no
value or an empty one (`Lacks`), with a complaint about each of these in order of declaration, and that it
rehearses the action with these inputs otherwise.
-/

set_option autoImplicit false

namespace ActionRehearsal.CommandLine

open ActionRehearsal.Files

/-! ## Effective values -/

/-- The value that a name has as an input, if any: that of the last argument that gives it one, or else the
declared default. -/
inductive EffectiveValue (a : Action) (arguments : List String) (name : String) : Option String → Prop where
  | given {value : String} (last : LastGiven arguments name value) :
      EffectiveValue a arguments name (some value)
  | declared {input : InputSpec} (declared : a.inputs.get? name = some input)
      (ungiven : ∀ argument ∈ arguments, ∀ value, ¬Gives argument name value) :
      EffectiveValue a arguments name input.default
  | unknown (undeclared : a.inputs.get? name = none)
      (ungiven : ∀ argument ∈ arguments, ∀ value, ¬Gives argument name value) :
      EffectiveValue a arguments name none

/-- Whether a name is that of a required input that has no value, or the empty one. -/
def Lacks (a : Action) (arguments : List String) (name : String) : Prop :=
  (∃ input, a.inputs.get? name = some input ∧ input.required = true) ∧
    (EffectiveValue a arguments name none ∨ EffectiveValue a arguments name (some ""))

section Inputs

variable {a : Action} {arguments : List String} {pairs : List (String × String)}

/-- A name that no argument gives a value is none of the keys that are given. -/
theorem get?_ofList_eq_none_iff (read : inputPairs arguments = .ok pairs) {name : String} :
    (Table.ofList pairs).get? name = none ↔
      ∀ argument ∈ arguments, ∀ value, ¬Gives argument name value := by
  rw [Table.get?_eq_none_iff, mem_keys_ofList_iff read]
  simp only [not_exists, not_and]

/-- What is given wins over the default. -/
theorem get?_effectiveInputs (a : Action) (pairs : List (String × String)) (name : String) :
    (effectiveInputs a pairs).get? name =
      ((Table.ofList pairs).get? name).or ((a.inputs.get? name).bind (·.default)) := by
  rw [effectiveInputs, Table.get?_update, defaultInputs, Table.get?_filterMapValues]

/-- Every name has its effective value. -/
theorem get?_effectiveInputs_iff (read : inputPairs arguments = .ok pairs) {name : String}
    {value : Option String} :
    (effectiveInputs a pairs).get? name = value ↔ EffectiveValue a arguments name value := by
  rw [get?_effectiveInputs]
  constructor
  · rintro rfl
    cases found : (Table.ofList pairs).get? name with
    | some text => exact .given ((get?_ofList_iff_lastGiven read).1 found)
    | none =>
        have ungiven := (get?_ofList_eq_none_iff read).1 found
        cases declared : a.inputs.get? name with
        | some input => exact .declared declared ungiven
        | none => exact .unknown declared ungiven
  · intro effective
    cases effective with
    | given last =>
        rw [(get?_ofList_iff_lastGiven read).2 last]
        rfl
    | declared declared ungiven =>
        rw [(get?_ofList_eq_none_iff read).2 ungiven, declared]
        rfl
    | unknown undeclared ungiven =>
        rw [(get?_ofList_eq_none_iff read).2 ungiven, undeclared]
        rfl

/-! ## Missing inputs -/

theorem get?_asValues (inputs : Table String String) (name : String) :
    Entries.get? (asValues inputs) (.text name) = (inputs.get? name).map .text := by
  have texts : asValues inputs = Mapping.ofFields (inputs.mapValues Value.text).entries := by
    rw [Mapping.ofFields, Table.mapValues, List.map_map]
    rfl
  rw [texts, get?_ofFields]
  exact Table.get?_mapValues Value.text inputs name

/-- What is checked as values is rehearsed with as their texts. -/
theorem inputTexts_asValues (inputs : Table String String) :
    inputTexts (asValues inputs) = inputs.entries :=
  inputTexts_of_texts inputs.entries

/-- The missing inputs are those that are required and have no value or the empty one. -/
theorem mem_missingInputs_iff (read : inputPairs arguments = .ok pairs) {name : String} :
    name ∈ a.missingInputs (asValues (effectiveInputs a pairs)) ↔ Lacks a arguments name := by
  have empty_or_absent (value : Option String) :
      (!(value.map Value.text).any Value.isGiven) = true ↔ value = none ∨ value = some "" := by
    cases value with
    | none => simp
    | some text => simp [Value.isGiven]
  rw [Action.missingInputs, Table.mem_keys_filter_iff, Lacks, ← get?_effectiveInputs_iff read,
    ← get?_effectiveInputs_iff read, get?_asValues]
  simp only [Bool.and_eq_true, empty_or_absent, ← and_assoc, exists_and_right]

/-- They come in the order in which the inputs are declared. -/
theorem missingInputs_sublist (supplied : Mapping) :
    (a.missingInputs supplied).Sublist a.inputs.keys :=
  List.filter_sublist.map _

end Inputs

/-! ## Runs -/

/-- What is printed of a rehearsal has a table of results, and a complaint about inputs has none. -/
theorem missingError_ne_rehearsalReport (problems : List String) (console : Console)
    (entries : List Entry) (notes : List String) :
    missingError problems ≠ rehearsalReport console entries notes := by
  intro same
  have heading : ⟨.results, "RESULTS"⟩ ∈ Console.results (summary entries).entries :=
    List.mem_cons_of_mem _ List.mem_cons_self
  have printed : ⟨.results, "RESULTS"⟩ ∈ missingError problems := by
    rw [same]
    exact List.mem_append_right _ heading
  cases List.mem_singleton.1 printed

/-- The text of a complaint about missing inputs has a line for each. -/
theorem err_missingError (names : List String) :
    (missingError (names.map ("Missing required input: " ++ ·))).err =
      "\nERROR: Missing inputs\nThe action declares required inputs that were not supplied.\n" ++
        Printed.textOfLines (names.map ("  Missing required input: " ++ ·)) ++
        "\nPass them with --input KEY=VALUE\n" := by
  have details : (names.map ("Missing required input: " ++ ·)).map ("  " ++ ·) =
      names.map ("  Missing required input: " ++ ·) := by
    rw [List.map_map]
    exact List.map_congr_left fun name _ => (String.append_assoc ..).symm
  rw [missingError, Console.err_error (by decide), details]
  simp only [String.append_assoc]
  rfl

/-- **Inputs are checked before a rehearsal.** Let a run be asked to rehearse an action that it can read,
with inputs that are pairs. It is stopped exactly if some required input has no value or the empty one; then
the exit status is 1, whatever the encoding takes of it, nothing is printed but an error, and its text has a
line for each such input in order of declaration. Otherwise the action is rehearsed with inputs in which
every name has its effective value. -/
theorem run_checks_inputs [Platform] {world : Surroundings} {settings : Settings} {arguments : List String}
    {debug : Bool} {options : SimulateOptions} {a : Action}
    (understood : Arguments.read settings arguments = .ok ⟨debug, .simulate options⟩)
    (accepted : ((Library.empty none).action world settings options.action).1.map (·.content) = .ok a)
    (paired : ∀ argument ∈ options.inputs, IsPair argument) :
    ∃ (inputs : Table String String) (missing : List String),
      (∀ name value, inputs.get? name = value ↔ EffectiveValue a options.inputs name value) ∧
      missing.Sublist a.inputs.keys ∧ (∀ name, name ∈ missing ↔ Lacks a options.inputs name) ∧
      let stopped : Outcome := .done (Console.error "Missing inputs"
        "The action declares required inputs that were not supplied."
        (missing.map ("Missing required input: " ++ ·)) "Pass them with --input KEY=VALUE") true
      let result := rehearse inputs.entries a.steps (standIns options)
      let rehearsal : Outcome :=
        .done (rehearsalReport ⟨debug⟩ result.1 result.2.notes) (hasFailure result.1)
      stopped.status = 1 ∧ (∀ encoding, (stopped.writtenIn encoding).status = 1) ∧
      stopped.printed.out = "" ∧
      stopped.printed.err =
        "\nERROR: Missing inputs\nThe action declares required inputs that were not supplied.\n" ++
          Printed.textOfLines (missing.map ("  Missing required input: " ++ ·)) ++
          "\nPass them with --input KEY=VALUE\n" ∧
      (run world settings arguments = stopped ↔ ∃ name, Lacks a options.inputs name) ∧
      (run world settings arguments = rehearsal ↔ ¬∃ name, Lacks a options.inputs name) := by
  obtain ⟨pairs, read⟩ := exists_inputPairs paired
  let inputs := effectiveInputs a pairs
  let missing := a.missingInputs (asValues inputs)
  have lacks (name : String) : name ∈ missing ↔ Lacks a options.inputs name := mem_missingInputs_iff read
  refine ⟨inputs, missing, fun name value => get?_effectiveInputs_iff read, missingInputs_sublist _, lacks, ?_⟩
  intro stopped result rehearsal
  have apart : stopped ≠ rehearsal := by
    intro same
    exact missingError_ne_rehearsalReport _ _ _ _ (congrArg Outcome.printed same)
  have run_eq : run world settings arguments = if missing = [] then rehearsal else stopped := by
    rw [run_of_accepted understood accepted, simulateAction, read]
    simp only [Action.inputProblems, List.isEmpty_iff, List.map_eq_nil_iff]
    rfl
  have nothing_missing : missing = [] ↔ ¬∃ name, Lacks a options.inputs name := by
    rw [List.eq_nil_iff_forall_not_mem, not_exists]
    simp only [lacks]
  refine ⟨rfl, fun encoding => ?_, rfl, ?_, ?_, ?_⟩
  · -- the status of a run that is cut short is 1 as well
    rw [Outcome.status_writtenIn]
    exact ite_self 1
  · exact err_missingError missing
  · rw [run_eq, apart.symm.ite_eq_right_iff, nothing_missing, not_not]
  · rw [run_eq, apart.symm.ite_eq_left_iff, nothing_missing]

/-- The text of an action with a required input that has a default. -/
def deploy : String :=
  "name: a\ndescription: b\ninputs: {token: {required: true, default: t}}\n" ++
    "runs: {using: composite, steps: [{}]}"

/-- What is read of it. -/
def deployment : Action where
  name := "a"
  description := "b"
  author := ""
  inputs := .ofList [("token", { required := true, default := some "t" })]
  runner := "composite"
  steps := [{}]

/-- The token is given twice, besides a name that is not declared. The last time it is the empty value, which
wins over the default. -/
theorem run_checks_inputs_deploy :
    Arguments.read {} ["simulate", "--input", "token=a=b", "--input", "port=1", "--input", " token ="] =
        .ok ⟨false, .simulate { inputs := ["token=a=b", "port=1", " token ="] }⟩ ∧
      (∀ argument ∈ ["token=a=b", "port=1", " token ="], IsPair argument) ∧
      Lacks deployment ["token=a=b", "port=1", " token ="] "token" ∧
      let outcome := run (folderWith deploy) {}
        ["simulate", "--input", "token=a=b", "--input", "port=1", "--input", " token ="]
      outcome.status = 1 ∧ outcome.printed.out = "" ∧
        outcome.printed.err =
          "\nERROR: Missing inputs\nThe action declares required inputs that were not supplied.\n" ++
            "  Missing required input: token\n" ++ "\nPass them with --input KEY=VALUE\n" := by
  have understood : Arguments.read {}
      ["simulate", "--input", "token=a=b", "--input", "port=1", "--input", " token ="] =
        .ok ⟨false, .simulate { inputs := ["token=a=b", "port=1", " token ="] }⟩ := by decide +kernel
  have accepted : ((Library.empty none).action (folderWith deploy) {} none).1.map (·.content) =
      .ok deployment := by decide +kernel
  have paired : ∀ argument ∈ ["token=a=b", "port=1", " token ="], IsPair argument := by decide +kernel
  have read : inputPairs ["token=a=b", "port=1", " token ="] =
      .ok [("token", "a=b"), ("port", "1"), ("token", "")] := by decide +kernel
  have last : LastGiven ["token=a=b", "port=1", " token ="] "token" "" :=
    (get?_ofList_iff_lastGiven read).1 (by decide +kernel)
  obtain ⟨inputs, missing, -, declared, lacks_iff, status, -, out, err, stopped, -⟩ :=
    run_checks_inputs understood accepted paired
  have lacks : Lacks deployment ["token=a=b", "port=1", " token ="] "token" :=
    ⟨⟨_, rfl, rfl⟩, .inr (.given last)⟩
  -- no other input is declared
  obtain rfl : missing = ["token"] := by
    rcases List.sublist_singleton.1 declared with nothing | token
    · have mem := (lacks_iff "token").2 lacks
      rw [nothing] at mem
      cases mem
    · exact token
  refine ⟨understood, paired, lacks, ?_⟩
  intro outcome
  rw [show outcome = _ from stopped.2 ⟨_, lacks⟩]
  exact ⟨status, out, err⟩

end ActionRehearsal.CommandLine
