import ActionRehearsal.Proofs.Rehearsal.Commands
import ActionRehearsal.Proofs.Table
import ActionRehearsal.Proofs.Text.Search

/-!
# The probe for a shell

Under PowerShell no command is executed. What taking one records is read off the command alone
(`probed?`), so a step always passes, and what it leaves are the mocks with the records of its commands
put in one after the other.

A command may say whether a shell was found, in one of three ways (`Announces`): it writes the output of
that name, or it holds one of the two marks of the probe. The main statement, `rehearseStep_powershell`, is
that after a step the output has the value that the last such command gives it, and that it is what it was
before if there is none.
-/

set_option autoImplicit false

namespace ActionRehearsal

open ActionRehearsal.Text

/-! ## What a command says -/

/-- Whether a command mentions an output, be it that it writes one or not. -/
def MentionsOutput (command : String) : Prop :=
  "echo".toList <:+: command.toList ∧ "GITHUB_OUTPUT".toList <:+: command.toList

/-- What a command says under PowerShell about whether a shell was found. One that mentions an output says
what it writes, if it writes the output of that name. Any other one says what the mark means that it holds,
and the mark that opens a probe comes before the one that goes on with it. -/
inductive Announces (command : String) : String → Prop where
  | written {value : String} (mentions : MentionsOutput command)
      (writes : Dialect.powershell.written? command = some ("bash_available", value)) :
      Announces command value
  | opened (plain : ¬MentionsOutput command) (mark : "try \x7b".toList <:+: command.toList) :
      Announces command "true"
  | caught (plain : ¬MentionsOutput command) (unopened : ¬"try \x7b".toList <:+: command.toList)
      (mark : "\x7d catch \x7b".toList <:+: command.toList) : Announces command "false"

/-- The output that is recorded when a command is taken under PowerShell. -/
def probed? (command : String) : Option (String × String) :=
  if Dialect.mayWrite command then Dialect.powershell.written? command
  else if command.holds "try \x7b" then some (bashAvailable, "true")
  else if command.holds "\x7d catch \x7b" then some (bashAvailable, "false")
  else none

theorem mayWrite_iff {command : String} :
    Dialect.mayWrite command = true ↔ MentionsOutput command := by
  rw [Dialect.mayWrite, Bool.and_eq_true, String.holds_iff, String.holds_iff, MentionsOutput]

/-- A command says something exactly if it has the output recorded that says whether a shell was found. -/
theorem announces_iff {command value : String} :
    Announces command value ↔ probed? command = some (bashAvailable, value) := by
  constructor
  · intro announced
    cases announced with
    | written mentions writes =>
        rw [probed?, if_pos (mayWrite_iff.2 mentions)]
        exact writes
    | opened plain mark =>
        rw [probed?, if_neg (mt mayWrite_iff.1 plain), if_pos (String.holds_iff.2 mark)]
    | caught plain unopened mark =>
        rw [probed?, if_neg (mt mayWrite_iff.1 plain), if_neg (mt String.holds_iff.1 unopened),
          if_pos (String.holds_iff.2 mark)]
  · intro recorded
    rw [probed?] at recorded
    split at recorded
    · rename_i mentions
      exact .written (mayWrite_iff.1 mentions) recorded
    · rename_i plain
      have plain : ¬MentionsOutput command := mt mayWrite_iff.2 plain
      split at recorded
      · rename_i mark
        cases recorded
        exact .opened plain (String.holds_iff.1 mark)
      · rename_i unopened
        have unopened : ¬"try \x7b".toList <:+: command.toList := mt String.holds_iff.2 unopened
        split at recorded
        · rename_i mark
          cases recorded
          exact .caught plain unopened (String.holds_iff.1 mark)
        · cases recorded

/-! ## What taking commands leaves -/

/-- Different outputs of a step have different places. -/
theorem outputKey_injective (id : Option String) : Function.Injective (outputKey id) := by
  intro name name' same
  rw [← String.toList_inj] at same ⊢
  simpa only [outputKey, String.toList_append, List.append_cancel_left_eq] using same

namespace Mocks

/-- Taking a command under PowerShell records what is read off it. -/
theorem probe_eq (m : Mocks) (id : Option String) (command : String) :
    m.probe id command =
      match probed? command with
      | some output => m.record id output
      | none => m := by
  rw [probe, probed?]
  split
  · rfl
  · split
    · rfl
    · split
      · rfl
      · rfl

/-- The mocks after commands were taken under PowerShell. -/
def probeAll (m : Mocks) (id : Option String) (commands : List String) : Mocks :=
  commands.foldl (fun m command => m.probe id command) m

/-- Nothing but outputs is touched. -/
theorem probeAll_frame (m : Mocks) (id : Option String) (commands : List String) :
    (m.probeAll id commands).handlers = m.handlers ∧ (m.probeAll id commands).notes = m.notes := by
  induction commands generalizing m with
  | nil => exact ⟨rfl, rfl⟩
  | cons command rest ih =>
      have first : (m.probe id command).handlers = m.handlers ∧
          (m.probe id command).notes = m.notes := by
        rw [probe_eq]
        cases probed? command with
        | none => exact ⟨rfl, rfl⟩
        | some output => exact ⟨rfl, rfl⟩
      obtain ⟨handlers, notes⟩ := ih (m.probe id command)
      exact ⟨handlers.trans first.1, notes.trans first.2⟩

/-- A command that says something is believed. -/
theorem getOutput_probe {command value : String} (announced : Announces command value) (m : Mocks)
    (id : Option String) :
    (m.probe id command).getOutput (outputKey id bashAvailable) = some value := by
  rw [probe_eq, announces_iff.1 announced]
  exact Table.get?_set_self _ _ _

/-- Commands that say nothing leave what was said before. -/
theorem getOutput_probeAll {commands : List String}
    (silent : ∀ command ∈ commands, ∀ value, ¬Announces command value) (m : Mocks)
    (id : Option String) :
    (m.probeAll id commands).getOutput (outputKey id bashAvailable) =
      m.getOutput (outputKey id bashAvailable) := by
  induction commands generalizing m with
  | nil => rfl
  | cons command rest ih =>
      have later := ih (fun other mem => silent other (List.mem_cons_of_mem _ mem)) (m.probe id command)
      refine later.trans ?_
      rw [probe_eq]
      cases recorded : probed? command with
      | none => rfl
      | some output =>
          -- what is recorded is another output of the step
          have other : outputKey id bashAvailable ≠ outputKey id output.1 := by
            intro same
            have name : output.1 = bashAvailable := (outputKey_injective id same).symm
            apply silent command List.mem_cons_self output.2
            rw [announces_iff, recorded, ← name]
          exact Table.get?_set_of_ne m.outputs other output.2

/-- The last command that says something is the one that counts. -/
theorem getOutput_probeAll_append {before after : List String} {command value : String}
    (announced : Announces command value) (silent : ∀ later ∈ after, ∀ value, ¬Announces later value)
    (m : Mocks) (id : Option String) :
    (m.probeAll id (before ++ command :: after)).getOutput (outputKey id bashAvailable) =
      some value := by
  rw [probeAll, List.foldl_append, List.foldl_cons]
  exact (getOutput_probeAll silent _ id).trans (getOutput_probe announced _ id)

end Mocks

/-! ## Steps under PowerShell -/

/-- A step under PowerShell takes all its commands, whatever executing one would do. -/
theorem rehearseStepWith_powershell (execute : Executor) (inputs : List (String × String)) {step : Step}
    (shell : step.shell = some "powershell") {script : String} (given : step.run = some script)
    (ne : script ≠ "") (m : Mocks) :
    let m' := m.probeAll step.id (commands (interpolate inputs script))
    rehearseStepWith execute inputs step m = (.passed (some (m'.outputsOf step.id)), m') := by
  intro m'
  have dialect : Dialect.ofShell step.shell = .powershell := by
    rw [shell]
    rfl
  obtain ⟨outcome, run, result⟩ := commandsRun_rehearseStep execute inputs given ne m
  have hrun : (step.withInputs inputs).run = some (interpolate inputs script) := by
    simp [Step.withInputs, given]
  rw [dialect, Step.commands_of_run hrun] at run
  -- taking a command never fails in this dialect, so the run goes through all of them
  have all : outcome = (.ok (), m') := run.eq_foldl fun command m => rfl
  rw [result, all]

/-- **Under PowerShell a step passes, and the last announcement counts.** A step with a script passes
whatever inputs there are, whatever the mocks are and whatever executing a command would do, for none is
executed: the registry and the notes of handlers stay as they are. If one of its commands says whether a
shell was found and none after it does, that is the output afterwards; and if none says so, the output is
what it was before. -/
theorem rehearseStep_powershell {step : Step} (shell : step.shell = some "powershell") {script : String}
    (given : step.run = some script) (ne : script ≠ "") (inputs : List (String × String)) (m : Mocks) :
    ∃ m' : Mocks,
      (∀ places, rehearseStep places inputs step m = (.passed (some (m'.outputsOf step.id)), m')) ∧
      (∀ execute, rehearseStepWith execute inputs step m =
        (.passed (some (m'.outputsOf step.id)), m')) ∧
      m'.handlers = m.handlers ∧ m'.notes = m.notes ∧
      (∀ before command after value,
        commands (interpolate inputs script) = before ++ command :: after → Announces command value →
          (∀ later ∈ after, ∀ other, ¬Announces later other) →
            m'.getOutput (outputKey step.id "bash_available") = some value) ∧
      ((∀ command ∈ commands (interpolate inputs script), ∀ value, ¬Announces command value) →
        m'.getOutput (outputKey step.id "bash_available") =
          m.getOutput (outputKey step.id "bash_available")) := by
  have all (execute : Executor) := rehearseStepWith_powershell execute inputs shell given ne m
  have frame := Mocks.probeAll_frame m step.id (commands (interpolate inputs script))
  refine ⟨_, fun places => all (Mocks.dispatch (places - 2)), all, frame.1, frame.2, ?_, ?_⟩
  · intro before command after value split announced silent
    rw [split]
    exact Mocks.getOutput_probeAll_append announced silent m step.id
  · intro silent
    exact Mocks.getOutput_probeAll silent m step.id

/-- A probe that writes what it finds itself, and after that a command that mentions an output and holds a
mark. -/
def findScript : String :=
  "try \x7b\n\x7d catch \x7b\necho \"bash_available=$\x7b\x7b inputs.found \x7d\x7d\" >> $env:GITHUB_OUTPUT\n" ++
    "echo try \x7b GITHUB_OUTPUT"

/-- A step with that script. -/
def findStep : Step := { id := some "find", shell := some "powershell", run := some findScript }

theorem rehearseStep_powershell_find :
    findStep.shell = some "powershell" ∧ findStep.run = some findScript ∧ findScript ≠ "" ∧
      ∃ m', (∀ places, rehearseStep places [("found", "maybe")] findStep {} =
          (.passed (some (m'.outputsOf (some "find"))), m')) ∧
        m'.getOutput "steps.find.outputs.bash_available" = some "maybe" := by
  have shell : findStep.shell = some "powershell" := rfl
  have ne : findScript ≠ "" := by decide +kernel
  have split : commands (interpolate [("found", "maybe")] findScript) =
      ["try \x7b", "\x7d catch \x7b"] ++
        "echo \"bash_available=maybe\" >> $env:GITHUB_OUTPUT" :: ["echo try \x7b GITHUB_OUTPUT"] := by
    decide +kernel
  have announced : Announces "echo \"bash_available=maybe\" >> $env:GITHUB_OUTPUT" "maybe" := by
    rw [announces_iff]
    decide +kernel
  have silent : ∀ later ∈ ["echo try \x7b GITHUB_OUTPUT"], ∀ other, ¬Announces later other := by
    intro later mem other
    -- the command would have to write an output, and it writes none
    have nothing : probed? "echo try \x7b GITHUB_OUTPUT" = none := by decide +kernel
    rw [List.mem_singleton.1 mem, announces_iff, nothing]
    exact nofun
  obtain ⟨m', passes, -, -, -, last, -⟩ :=
    rehearseStep_powershell shell rfl ne [("found", "maybe")] {}
  exact ⟨shell, rfl, ne, m', passes, last _ _ _ _ split announced silent⟩

end ActionRehearsal
