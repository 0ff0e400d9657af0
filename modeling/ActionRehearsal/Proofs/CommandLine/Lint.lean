import ActionRehearsal.CommandLine.Run
import ActionRehearsal.Proofs.Analysis.Tokens
import ActionRehearsal.Proofs.CommandLine.Outcome

/-!
# When a check for literal tokens fails

A check of an action and a workflow that are both read fails exactly for one of these reasons: the text
of the action leaks a literal token, a script of the action holds one, both paths lead to one place, a
script of the workflow holds one, or the test matrix of the workflow has an axis without items. This is
the main statement, `run_lint_failsIf`.

The text of the workflow is not among the reasons. So a token that stands in it outside of all scripts is
not found: `unscanned_workflow_passes` has one in an environment variable.
-/

set_option autoImplicit false

namespace ActionRehearsal.CommandLine

open ActionRehearsal.Analysis ActionRehearsal.Files

/-! ## Documents at paths -/

/-- A document: where it stands, its text, and the definition that is read of it. -/
structure Document (α : Type) where
  place : Place
  text : String
  content : α

/-- Whether a given path leads to a document, whatever path would stand in for it. -/
structure Document.IsAt {α : Type} (doc : Document α) (world : Surroundings)
    (reader : Library.Reader α) (path : String) : Prop where
  located : ∀ default, world.locate none (some path) default = .ok doc.place
  found : world.files.textAt doc.place = .ok doc.text
  read : reader.ofText (some doc.place.text) doc.text = .ok doc.content

section Requests

variable {α : Type} {doc : Document α} {world : Surroundings} {reader : Library.Reader α} {path : String}

theorem Document.IsAt.readAt (h : doc.IsAt world reader path) :
    Library.readAt world.files reader doc.place = .ok doc.content := by
  simp only [Library.readAt, h.found, h.read, Except.mapError]

/-- A library that does not hold the place of a document yet reads it there. -/
theorem Document.IsAt.request (h : doc.IsAt world reader path) {lib : Library}
    (root : lib.root = none) (absent : lib.held.get? doc.place.text = none) (default : String) :
    lib.request world reader (some path) default =
      (.ok ⟨lib.nextSerial, doc.content⟩, lib.hold doc.place.text (reader.wrap doc.content)) := by
  simp only [Library.request, root, h.located, Library.requestAt, absent, h.readAt]

end Requests

/-! ## Statuses -/

section Statuses

variable {setting : Setting} {a : Action} {text : String} {w : Workflow}

theorem leaksInAction_iff :
    leaksInAction a text = true ↔
      LeaksToken text ∨ ∃ step ∈ a.steps, ∃ script ∈ step.script?, HoldsToken script.toList := by
  rw [leaksInAction, Bool.or_eq_true, hasLiteralTokens_iff, or_comm, ← scanText_ne_nil_iff]
  simp only [Bool.not_eq_true', List.isEmpty_eq_false_iff]

theorem leaksInWorkflow_iff :
    leaksInWorkflow w = true ↔
      ∃ step ∈ w.allSteps, ∃ script ∈ step.script?, HoldsToken script.toList :=
  hasLiteralTokens_iff

/-- The size of a matrix is printed only if its axes have items. -/
theorem failsIf_withMatrix (settings : Settings) (versionAxis : String) (printed finish : Printed)
    (failed : Bool) :
    (withMatrix settings versionAxis w printed failed finish).FailsIf
      (failed = true ∨
        ∃ fault, matrixReport w.jobs settings.matrixJob osAxis versionAxis = .error fault) := by
  unfold withMatrix
  cases report : matrixReport w.jobs settings.matrixJob osAxis versionAxis with
  | ok report =>
      refine (Outcome.failsIf_done _ failed).of_iff ?_
      simp
  | error fault =>
      refine (Outcome.failsIf_cut _ _).of_iff ?_
      simp

/-- A check of an action alone fails exactly if the action leaks a token. -/
theorem failsIf_lintDefinitions_none :
    (lintDefinitions setting a text none).FailsIf (leaksInAction a text = true) :=
  Outcome.failsIf_done ..

/-- With a workflow it also fails if a script of that holds a token or the matrix has an axis without
items. -/
theorem failsIf_lintDefinitions_some :
    (lintDefinitions setting a text (some w)).FailsIf
      (leaksInAction a text = true ∨ leaksInWorkflow w = true ∨
        ∃ fault, matrixReport w.jobs setting.settings.matrixJob osAxis
          setting.settings.versionAxis = .error fault) := by
  refine (failsIf_withMatrix setting.settings setting.settings.versionAxis _ _
    (leaksInAction a text || leaksInWorkflow w)).of_iff ?_
  rw [Bool.or_eq_true, or_assoc]

end Statuses

/-! ## Checks of documents that are read -/

section Lint

variable {setting : Setting} {A W : String} {a : Document Action} {w : Document Workflow}

/-- The text that is scanned is that of the action. -/
theorem actionText_eq [Platform] (ha : a.IsAt setting.world Library.actions A) :
    actionText setting (some A) = .ok a.text := by
  simp only [actionText, ha.located, ha.found]
  rfl

/-- After the action, the place of the action is refused as that of a workflow. -/
theorem Document.IsAt.workflow_of_same_place [Platform] (hw : w.IsAt setting.world Library.workflows W)
    (same : a.place.text = w.place.text) :
    (((Library.empty none).hold a.place.text (.action a.content)).workflow setting.world
      setting.settings (some W)).1 =
        .error (.read (.refused ⟨.otherKind .action .workflow, some w.place.text⟩)) := by
  have held : ((Library.empty none).hold a.place.text (.action a.content)).held.get? w.place.text =
      some ⟨0, .action a.content⟩ := by
    rw [same]
    exact Table.get?_set_self _ _ _
  have located : setting.world.locate ((Library.empty none).hold a.place.text (.action a.content)).root
      (some W) setting.settings.workflowPath = .ok w.place := hw.located _
  simp only [Library.workflow, Library.request, located, Library.requestAt, held]
  rfl

/-- Any other place is read. -/
theorem Document.IsAt.workflow_of_other_place [Platform] (hw : w.IsAt setting.world Library.workflows W)
    (other : a.place.text ≠ w.place.text) :
    (((Library.empty none).hold a.place.text (.action a.content)).workflow setting.world
      setting.settings (some W)).1 = .ok ⟨1, w.content⟩ := by
  have absent : ((Library.empty none).hold a.place.text (.action a.content)).held.get? w.place.text =
      none := by
    refine (Table.get?_set_of_ne _ other.symm _).trans ?_
    rfl
  rw [Library.workflow, hw.request rfl absent]
  rfl

/-- What a check does with two documents that are read: an empty path of a workflow counts as none, and
the place of the action is refused as that of a workflow. -/
theorem lint_eq [Platform] (ha : a.IsAt setting.world Library.actions A)
    (hw : w.IsAt setting.world Library.workflows W) :
    lint setting (some A) (some W) =
      if W = "" then lintDefinitions setting a.content a.text none
      else if a.place.text = w.place.text then
        .ofConfigError setting.console ⟨.otherKind .action .workflow, some w.place.text⟩
      else lintDefinitions setting a.content a.text (some w.content) := by
  have read_action : (Library.empty none).action setting.world setting.settings (some A) =
      (.ok ⟨0, a.content⟩, (Library.empty none).hold a.place.text (.action a.content)) :=
    ha.request rfl rfl _
  have read_text := actionText_eq ha
  -- the path of the workflow decides whether a second request is made at all
  by_cases empty : W = ""
  · rw [if_pos empty]
    subst empty
    have not_given : firstGiven [some ""] = none := rfl
    simp only [lint, read_action, read_text, not_given]
  · rw [if_neg empty]
    have given : firstGiven [some W] = some W := if_neg empty
    by_cases same : a.place.text = w.place.text
    · rw [if_pos same]
      simp only [lint, read_action, read_text, given, hw.workflow_of_same_place same]
      rfl
    · rw [if_neg same]
      simp only [lint, read_action, read_text, given, hw.workflow_of_other_place same]
      rfl

theorem failsIf_lint [Platform] (ha : a.IsAt setting.world Library.actions A)
    (hw : w.IsAt setting.world Library.workflows W) :
    (lint setting (some A) (some W)).FailsIf
      (leaksInAction a.content a.text = true ∨ W ≠ "" ∧ (a.place.text = w.place.text ∨
        leaksInWorkflow w.content = true ∨
          ∃ fault, matrixReport w.content.jobs setting.settings.matrixJob osAxis
            setting.settings.versionAxis = .error fault)) := by
  rw [lint_eq ha hw]
  by_cases empty : W = ""
  · rw [if_pos empty]
    refine failsIf_lintDefinitions_none.of_iff ?_
    simp only [empty, ne_eq, not_true_eq_false, false_and, or_false]
  · rw [if_neg empty]
    by_cases same : a.place.text = w.place.text
    · rw [if_pos same]
      refine (Outcome.failsIf_ofConfigError _ _).of_iff ?_
      simp only [same, empty, ne_eq, not_false_eq_true, true_or, true_and, or_true]
    · rw [if_neg same]
      refine failsIf_lintDefinitions_some.of_iff ?_
      simp only [same, empty, ne_eq, not_false_eq_true, true_and, false_or]

end Lint

/-- The command is understood whatever its paths look like. -/
theorem run_lint [Platform] (world : Surroundings) (settings : Settings) (A W : String) :
    run world settings ["lint", "--action", A, "--workflow", W] =
      lint ⟨world, settings, {}⟩ (some A) (some W) := rfl

/-- **When a check fails.** A check of an action and a workflow that are both read ends with status 0 or
1. It ends with 1 exactly if the text of the action leaks a literal token, a script of the action holds
one, or a workflow is given and stands at the place of the action, has a script that holds a token, or
has a test matrix with an axis without items. -/
theorem run_lint_failsIf [Platform] {world : Surroundings} {settings : Settings} {A W : String}
    {a : Document Action} {w : Document Workflow} (ha : a.IsAt world Library.actions A)
    (hw : w.IsAt world Library.workflows W) :
    (run world settings ["lint", "--action", A, "--workflow", W]).FailsIf
      (LeaksToken a.text ∨
        (∃ step ∈ a.content.steps, ∃ script ∈ step.script?, HoldsToken script.toList) ∨
        W ≠ "" ∧ (a.place.text = w.place.text ∨
          (∃ step ∈ w.content.allSteps, ∃ script ∈ step.script?, HoldsToken script.toList) ∨
          ∃ fault, matrixReport w.content.jobs settings.matrixJob osAxis settings.versionAxis =
            .error fault)) := by
  have checked : (lint ⟨world, settings, {}⟩ (some A) (some W)).FailsIf _ := failsIf_lint ha hw
  rw [leaksInAction_iff, leaksInWorkflow_iff, or_assoc] at checked
  rw [run_lint]
  exact checked

/-! ## A token outside of scripts -/

/-- A document that is found and read as something with a property. -/
theorem Document.exists_isAt {α : Type} {world : Surroundings} {reader : Library.Reader α}
    {path text : String} {place : Place} {p : α → Bool}
    (located : world.locate none (some path) "" = .ok place)
    (found : world.files.textAt place = .ok text)
    (read : (reader.ofText (some place.text) text).toOption.any p = true) :
    ∃ content, (Document.mk place text content).IsAt world reader path ∧ p content = true := by
  cases given : reader.ofText (some place.text) text with
  | ok content =>
      rw [given] at read
      exact ⟨content, ⟨fun _ => located, found, given⟩, read⟩
  | error fault =>
      rw [given] at read
      cases read

/-- The text of a small action. -/
def greeting : String := "name: a\ndescription: b\nruns: {using: composite, steps: [{run: ls}]}"

/-- The text of a workflow with a literal token in an environment variable. -/
def leakyWorkflow : String := "name: w\non: push\nenv: {TOKEN: github_pat_1}\njobs: {test: {}}"

/-- The folder that holds the two. -/
def leakyProject : Surroundings where
  files.resolve names := .ok names
  files.find
    | ["action.yml"] => .file (asciiBytes greeting)
    | ["test.yml"] => .file (asciiBytes leakyWorkflow)
    | _ => .nothing
where
  /-- The bytes of a text of ASCII characters. -/
  asciiBytes (text : String) : List UInt8 := text.toList.map fun c => c.toNat.toUInt8

theorem greeting_isAt :
    ∃ a, (Document.mk ["action.yml"] greeting a).IsAt leakyProject Library.actions "action.yml" ∧
      (!leaksInAction a greeting) = true :=
  Document.exists_isAt (by decide +kernel) (by decide +kernel) (by decide +kernel)

theorem leakyWorkflow_isAt :
    ∃ w, (Document.mk ["test.yml"] leakyWorkflow w).IsAt leakyProject Library.workflows "test.yml" ∧
      (!leaksInWorkflow w && (matrixReport w.jobs "test" osAxis "python-version").isOk) = true :=
  Document.exists_isAt (by decide +kernel) (by decide +kernel) (by decide +kernel)

/-- In this folder the check depends on the scripts, the matrix and the text of the action. -/
theorem run_lint_failsIf_leakyProject :
    ∃ (a : Document Action) (w : Document Workflow),
      a.IsAt leakyProject Library.actions "action.yml" ∧
      w.IsAt leakyProject Library.workflows "test.yml" ∧
      (run leakyProject {} ["lint", "--action", "action.yml", "--workflow", "test.yml"]).FailsIf
        (LeaksToken a.text ∨
          (∃ step ∈ a.content.steps, ∃ script ∈ step.script?, HoldsToken script.toList) ∨
          "test.yml" ≠ "" ∧ (a.place.text = w.place.text ∨
            (∃ step ∈ w.content.allSteps, ∃ script ∈ step.script?, HoldsToken script.toList) ∨
            ∃ fault, matrixReport w.content.jobs "test" osAxis "python-version" = .error fault)) := by
  obtain ⟨a, ha, -⟩ := greeting_isAt
  obtain ⟨w, hw, -⟩ := leakyWorkflow_isAt
  exact ⟨_, _, ha, hw, run_lint_failsIf ha hw⟩

/-- The scan of a whole file finds the token, and the check of the workflow does not fail. So a document
that leaks a token does not always make a check of it fail. -/
theorem unscanned_workflow_passes :
    ¬∀ (world : Surroundings) (settings : Settings) (A W : String) (a : Document Action)
      (w : Document Workflow), a.IsAt world Library.actions A → w.IsAt world Library.workflows W →
      scanText a.text ≠ [] ∨ scanText w.text ≠ [] →
      (run world settings ["lint", "--action", A, "--workflow", W]).status = 1 := by
  intro claim
  obtain ⟨a, ha, clean_action⟩ := greeting_isAt
  obtain ⟨w, hw, clean_workflow⟩ := leakyWorkflow_isAt
  have found : scanText leakyWorkflow ≠ [] := by decide +kernel
  have other : Place.text ["action.yml"] ≠ Place.text ["test.yml"] := by decide +kernel
  have fails := claim leakyProject {} "action.yml" "test.yml" _ _ ha hw (.inr found)
  have checked : (lint ⟨leakyProject, {}, {}⟩ (some "action.yml") (some "test.yml")).FailsIf _ :=
    failsIf_lint ha hw
  rw [Bool.and_eq_true] at clean_workflow
  -- the check would need a reason to fail, and there is none
  rcases checked.2.1 fails with leaks | ⟨-, same | leaks | ⟨fault, no_items⟩⟩
  · simp [leaks] at clean_action
  · exact other same
  · simp [leaks] at clean_workflow
  · have sized := clean_workflow.2
    rw [no_items] at sized
    cases sized

end ActionRehearsal.CommandLine
