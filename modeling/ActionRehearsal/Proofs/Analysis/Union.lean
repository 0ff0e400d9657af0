import ActionRehearsal.Definition.Library
import ActionRehearsal.Proofs.Analysis.Tokens
import ActionRehearsal.Proofs.Rehearsal.Commands
import Mathlib.Data.List.Forall2

/-!
# Reports on scripts are unions

A report on steps has a flag exactly if some step alone sets it, so the report on several lists of steps
put together is the union of the reports on each (`someScriptHits_flatten`). Neither the order of the
steps nor the definition that they come from matters.

A flag cannot be cleared by adding text. A pattern that is written in a text is written in whatever
surrounds it (`Pattern.IsWritten.of_infix`), so a flag survives when steps are put in anywhere and text
is put around scripts (`someScriptHits_of_padded`).

The main statement is `reports_union`. An instance is the token of `reports_union_hidden_token`, which is
found in the middle of a word.
-/

set_option autoImplicit false

namespace ActionRehearsal

/-! ## Steps of definitions -/

/-- The steps of a definition of either kind: those of the action, or those of all jobs. -/
def Definition.steps : Definition → List Step
  | .action a => a.steps
  | .workflow w => w.allSteps

/-- The lists of steps that a definition is made of: the one of an action, or one for each job. -/
def Definition.stepLists : Definition → List (List Step)
  | .action a => [a.steps]
  | .workflow w => w.jobs.entries.map fun job => job.2.steps

theorem Definition.flatten_stepLists (d : Definition) : d.stepLists.flatten = d.steps := by
  cases d with
  | action a => exact List.flatten_singleton
  | workflow w => rfl

/-- How text is put around the script of a step: not at all, or before and after the script that it
has. -/
inductive Step.Padded : Step → Step → Prop where
  | same (step : Step) : Padded step step
  | around {step : Step} {script : String} (given : step.run = some script) (before after : String) :
      Padded step { step with run := some (before ++ script ++ after) }

/-- A script is found again inside the script of the step that was padded. -/
theorem Step.Padded.exists_script? {step step' : Step} (padded : Padded step step') {script : String}
    (given : step.script? = some script) :
    ∃ script', step'.script? = some script' ∧ script.toList <:+: script'.toList := by
  cases padded with
  | same => exact ⟨script, given, List.infix_rfl⟩
  | @around script' given' before after =>
      obtain ⟨run, ne⟩ := Step.script?_eq_some_iff.1 given
      obtain rfl : script' = script := Option.some.inj (given'.symm.trans run)
      -- an empty script counts as none, so this one is not empty and stays so with text around it
      refine ⟨before ++ script' ++ after, Step.script?_of_run rfl ?_, ?_⟩
      · intro empty
        rw [String.append_eq_empty_iff, String.append_eq_empty_iff] at empty
        exact ne empty.1.2
      · rw [String.toList_append, String.toList_append]
        exact List.infix_append _ _ _

/-- After steps were padded and others put in, every step is there in a padded form. -/
theorem Step.exists_padded_of_mem {steps steps' : List Step}
    (grown : List.SublistForall₂ Step.Padded steps steps') {step : Step} (mem : step ∈ steps) :
    ∃ step' ∈ steps', step.Padded step' := by
  induction grown with
  | nil => cases mem
  | @cons first first' rest rest' padded _ ih =>
      rcases List.mem_cons.1 mem with rfl | later
      · exact ⟨first', List.mem_cons_self, padded⟩
      · obtain ⟨step', mem', padded'⟩ := ih later
        exact ⟨step', List.mem_cons_of_mem _ mem', padded'⟩
  | cons_right _ ih =>
      obtain ⟨step', mem', padded'⟩ := ih mem
      exact ⟨step', List.mem_cons_of_mem _ mem', padded'⟩

namespace Analysis

/-! ## Patterns in larger texts -/

theorem Pattern.IsWritten.of_infix {p : Pattern} {s t : List Char} (written : p.IsWritten s)
    (inside : s <:+: t) : p.IsWritten t := by
  obtain ⟨tail, least, all_tail, here⟩ := written
  exact ⟨tail, least, all_tail, here.trans inside⟩

theorem Rule.IsBroken.of_infix {rule : Rule} {s t : List Char} (broken : rule.IsBroken s)
    (inside : s <:+: t) : rule.IsBroken t := by
  obtain ⟨p, listed, written⟩ := broken
  exact ⟨p, listed, written.of_infix inside⟩

/-! ## Flags -/

/-- A flag is set for lists of steps put together exactly if it is set for one of them. -/
theorem someScriptHits_flatten (rules : List Rule) (lists : List (List Step)) :
    someScriptHits rules lists.flatten = lists.any (someScriptHits rules) := by
  induction lists with
  | nil => rfl
  | cons steps lists ih =>
      rw [List.any_cons, ← ih]
      simp only [someScriptHits, scripts, List.flatten_cons, List.filterMap_append, List.any_append]

theorem someScriptHits_of_perm (rules : List Rule) {steps steps' : List Step}
    (perm : steps.Perm steps') : someScriptHits rules steps = someScriptHits rules steps' :=
  (perm.filterMap _).any_eq

/-- A flag that is set stays so when steps are padded and others put in. -/
theorem someScriptHits_of_padded {rules : List Rule} {steps steps' : List Step}
    (grown : List.SublistForall₂ Step.Padded steps steps') (hit : someScriptHits rules steps = true) :
    someScriptHits rules steps' = true := by
  obtain ⟨step, mem, script, given, rule, listed, broken⟩ := someScriptHits_iff.1 hit
  obtain ⟨step', mem', padded⟩ := Step.exists_padded_of_mem grown mem
  obtain ⟨script', given', inside⟩ := padded.exists_script? given
  exact someScriptHits_iff.2 ⟨step', mem', script', given', rule, listed, broken.of_infix inside⟩

/-! ## Reports -/

/-- The report that has a flag if one of several reports has it. -/
def SecretsReport.union (reports : List SecretsReport) : SecretsReport where
  hasLiteralTokens := reports.any (·.hasLiteralTokens)
  passesTokens := reports.any (·.passesTokens)
  cleansUp := reports.any (·.cleansUp)

/-- The report that has a flag if one of several reports has it. -/
def ConventionsReport.union (reports : List ConventionsReport) : ConventionsReport where
  testsConfigFile := reports.any (·.testsConfigFile)
  skipsIfMissing := reports.any (·.skipsIfMissing)
  createsDocuments := reports.any (·.createsDocuments)

/-- Whether every flag of a report is one of another report too. -/
structure SecretsReport.Within (r s : SecretsReport) : Prop where
  hasLiteralTokens : r.hasLiteralTokens = true → s.hasLiteralTokens = true
  passesTokens : r.passesTokens = true → s.passesTokens = true
  cleansUp : r.cleansUp = true → s.cleansUp = true

/-- Whether every flag of a report is one of another report too. -/
structure ConventionsReport.Within (r s : ConventionsReport) : Prop where
  testsConfigFile : r.testsConfigFile = true → s.testsConfigFile = true
  skipsIfMissing : r.skipsIfMissing = true → s.skipsIfMissing = true
  createsDocuments : r.createsDocuments = true → s.createsDocuments = true

theorem secretsReport_flatten (lists : List (List Step)) :
    secretsReport lists.flatten = .union (lists.map secretsReport) := by
  simp only [secretsReport, SecretsReport.union, someScriptHits_flatten, List.any_map]
  rfl

theorem conventionsReport_flatten (lists : List (List Step)) :
    conventionsReport lists.flatten = .union (lists.map conventionsReport) := by
  simp only [conventionsReport, ConventionsReport.union, someScriptHits_flatten, List.any_map]
  rfl

/-- **Reports are unions, and flags are never cleared.** Both reports on two lists of steps put together
are the unions of those on each, and do not depend on the order of the steps. On a definition they are
the reports on its steps, which are the unions of those on its lists of steps: one list for an action,
one for each job of a workflow. When steps are put in anywhere and any text is put around any scripts, no
flag is lost. -/
theorem reports_union :
    (∀ steps steps' : List Step,
      secretsReport (steps ++ steps') = .union [secretsReport steps, secretsReport steps'] ∧
      conventionsReport (steps ++ steps') =
        .union [conventionsReport steps, conventionsReport steps']) ∧
    (∀ steps steps' : List Step, steps.Perm steps' →
      secretsReport steps = secretsReport steps' ∧
      conventionsReport steps = conventionsReport steps') ∧
    (∀ d : Definition,
      secretsReport d.steps = .union (d.stepLists.map secretsReport) ∧
      conventionsReport d.steps = .union (d.stepLists.map conventionsReport)) ∧
    ∀ steps steps' : List Step, steps.SublistForall₂ Step.Padded steps' →
      (secretsReport steps).Within (secretsReport steps') ∧
      (conventionsReport steps).Within (conventionsReport steps') := by
  refine ⟨?_, ?_, ?_, ?_⟩
  · intro steps steps'
    have joined : [steps, steps'].flatten = steps ++ steps' := by simp
    rw [← joined]
    exact ⟨secretsReport_flatten [steps, steps'], conventionsReport_flatten [steps, steps']⟩
  · intro steps steps' perm
    constructor
    · simp only [secretsReport, someScriptHits_of_perm _ perm]
    · simp only [conventionsReport, someScriptHits_of_perm _ perm]
  · intro d
    rw [← d.flatten_stepLists]
    exact ⟨secretsReport_flatten d.stepLists, conventionsReport_flatten d.stepLists⟩
  · intro steps steps' grown
    constructor
    · exact ⟨someScriptHits_of_padded grown, someScriptHits_of_padded grown,
        someScriptHits_of_padded grown⟩
    · exact ⟨someScriptHits_of_padded grown, someScriptHits_of_padded grown,
        someScriptHits_of_padded grown⟩

/-- A step with a literal token. -/
def leakingStep : Step := { run := some "github_pat_1" }

/-- The step with text around the token. -/
def paddedStep : Step := { leakingStep with run := some ("x" ++ "github_pat_1" ++ "é") }

/-- A step that prints. -/
def printingStep : Step := { run := some "echo" }

/-- The token is found inside of a word after another step, and in whichever order. -/
theorem reports_union_hidden_token :
    List.SublistForall₂ Step.Padded [leakingStep] [printingStep, paddedStep] ∧
    (secretsReport [leakingStep]).hasLiteralTokens = true ∧
    (secretsReport [printingStep, paddedStep]).hasLiteralTokens = true ∧
    secretsReport [leakingStep, printingStep] = secretsReport [printingStep, leakingStep] := by
  obtain ⟨-, reordered, -, kept⟩ := reports_union
  have padded : leakingStep.Padded paddedStep := .around rfl "x" "é"
  have grown : List.SublistForall₂ Step.Padded [leakingStep] [printingStep, paddedStep] :=
    .cons_right (.cons padded .nil)
  have set : (secretsReport [leakingStep]).hasLiteralTokens = true := by decide
  refine ⟨grown, set, ?_, ?_⟩
  · exact (kept _ _ grown).1.hasLiteralTokens set
  · exact (reordered _ _ (List.Perm.swap printingStep leakingStep [])).1

end Analysis

end ActionRehearsal
