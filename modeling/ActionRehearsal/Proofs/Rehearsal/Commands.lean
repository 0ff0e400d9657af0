import ActionRehearsal.Rehearsal.Run
import ActionRehearsal.Script

/-!
# The commands that a rehearsal takes

A rehearsal walks through the lines of a script on its own, without listing its commands first.
`CommandsRun` says how a list of commands is taken: one after the other, up to the first fault,
with the commands that were handed on written down. Walking through lines is such a run over the
commands of the script (`commandsRun_takeLines`), whatever is done with each of them, so the two
ways of reading a script agree line by line. What every command keeps, a run keeps
(`CommandsRun.keeps`, and for two runs side by side `CommandsRun.alike`), and `commandTaken` says
once what may become of a command.

The main statement is `rehearseStep_takes_commands`: which commands a step hands on, and what its
result and the mocks after it are, if all of them pass and if one fails.
-/

set_option autoImplicit false

namespace ActionRehearsal

open ActionRehearsal.Text

section Lines

variable {σ ε : Type}

/-- Commands that are taken one after the other without a fault, from one state to another. -/
inductive Passes (take : String → σ → Except ε Unit × σ) : List String → σ → σ → Prop where
  | done (s : σ) : Passes take [] s s
  | next {command : String} {rest : List String} {s s₁ s' : σ}
      (taken : take command s = (.ok (), s₁)) (passes : Passes take rest s₁ s') :
      Passes take (command :: rest) s s'

/-- How commands are taken up to the first fault: the commands handed on, and the outcome. -/
inductive CommandsRun (take : String → σ → Except ε Unit × σ) :
    List String → σ → List String → Except ε Unit × σ → Prop where
  | done (s : σ) : CommandsRun take [] s [] (.ok (), s)
  | stop {command : String} {rest : List String} {s s' : σ} {fault : ε}
      (taken : take command s = (.error fault, s')) :
      CommandsRun take (command :: rest) s [command] (.error fault, s')
  | next {command : String} {rest handed : List String} {s s₁ : σ} {outcome : Except ε Unit × σ}
      (taken : take command s = (.ok (), s₁)) (run : CommandsRun take rest s₁ handed outcome) :
      CommandsRun take (command :: rest) s (command :: handed) outcome

/-- Takes a command as `take` does and writes it down. -/
def noting (take : String → σ → Except ε Unit × σ) (command : String) (s : List String × σ) :
    Except ε Unit × (List String × σ) :=
  ((take command s.2).1, (s.1 ++ [command], (take command s.2).2))

variable {take : String → σ → Except ε Unit × σ}

/-! ## Runs over commands -/

/-- What is handed on are the first commands, in order. -/
theorem CommandsRun.handed_first {commands handed : List String} {s : σ}
    {outcome : Except ε Unit × σ} (h : CommandsRun take commands s handed outcome) :
    handed <+: commands := by
  induction h with
  | done s => exact List.nil_prefix
  | stop taken => exact List.prefix_append [_] _
  | next taken run ih => exact List.cons_prefix_cons.2 ⟨rfl, ih⟩

/-- Without a fault, all commands are handed on and pass. -/
theorem CommandsRun.passes {commands handed : List String} {s : σ} {outcome : Except ε Unit × σ}
    (h : CommandsRun take commands s handed outcome) (ok : outcome.1 = .ok ()) :
    handed = commands ∧ Passes take commands s outcome.2 := by
  induction h with
  | done s => exact ⟨rfl, .done s⟩
  | stop taken => cases ok
  | next taken run ih =>
      obtain ⟨rfl, passes⟩ := ih ok
      exact ⟨rfl, .next taken passes⟩

/-- With a fault, it comes from the last command handed on, and those before it pass. -/
theorem CommandsRun.fails {commands handed : List String} {s : σ} {outcome : Except ε Unit × σ}
    (h : CommandsRun take commands s handed outcome) {fault : ε} (error : outcome.1 = .error fault) :
    ∃ before command s₁, handed = before ++ [command] ∧ Passes take before s s₁ ∧
      take command s₁ = (.error fault, outcome.2) := by
  induction h with
  | done s => cases error
  | stop taken =>
      cases error
      exact ⟨[], _, _, rfl, .done _, taken⟩
  | next taken run ih =>
      obtain ⟨before, command, s₁, rfl, passes, last⟩ := ih error
      exact ⟨_ :: before, command, s₁, rfl, .next taken passes, last⟩

/-- What every command keeps, a run keeps, also if it ends with a fault. -/
theorem CommandsRun.keeps {commands handed : List String} {s : σ} {outcome : Except ε Unit × σ}
    (h : CommandsRun take commands s handed outcome) {keep : σ → Prop}
    (step : ∀ command s, keep s → keep (take command s).2) (start : keep s) : keep outcome.2 := by
  induction h with
  | done s => exact start
  | @stop command rest s s' fault taken =>
      have after := step command s start
      rwa [taken] at after
  | @next command rest handed s s₁ outcome taken run ih =>
      have after := step command s start
      rw [taken] at after
      exact ih after

/-- If every command passes and keeps what lets the next one pass, a run ends without a fault. -/
theorem CommandsRun.ok {commands handed : List String} {s : σ} {outcome : Except ε Unit × σ}
    (h : CommandsRun take commands s handed outcome) {keep : σ → Prop}
    (step : ∀ command s, keep s → (take command s).1 = .ok () ∧ keep (take command s).2)
    (start : keep s) : outcome.1 = .ok () := by
  induction h with
  | done s => rfl
  | @stop command rest s s' fault taken =>
      have passes := (step command s start).1
      rw [taken] at passes
      cases passes
  | @next command rest handed s s₁ outcome taken run ih =>
      have kept := (step command s start).2
      rw [taken] at kept
      exact ih kept

/-- If taking a command never gives a fault, a run takes all of them, one after the other. -/
theorem CommandsRun.eq_foldl {commands handed : List String} {s : σ} {outcome : Except ε Unit × σ}
    (h : CommandsRun take commands s handed outcome) {after : σ → String → σ}
    (step : ∀ command s, take command s = (.ok (), after s command)) :
    outcome = (.ok (), commands.foldl after s) := by
  induction h with
  | done s => rfl
  | @stop command rest s s' fault taken =>
      rw [step] at taken
      cases taken
  | @next command rest handed s s₁ outcome taken run ih =>
      rw [step] at taken
      cases taken
      exact ih

/-- Of commands that pass, each was taken in some state that has what all of them keep. -/
theorem Passes.taken_of_mem {p : σ → Prop}
    (step : ∀ command s, p s → p (take command s).2) {commands : List String} {s s' : σ}
    (h : Passes take commands s s') (start : p s) {command : String} (mem : command ∈ commands) :
    ∃ before after, p before ∧ take command before = (.ok (), after) := by
  induction h with
  | done s => cases mem
  | @next first rest s s₁ s' taken passes ih =>
      rcases List.mem_cons.1 mem with rfl | later
      · exact ⟨s, s₁, start, taken⟩
      · have kept := step first s start
        rw [taken] at kept
        exact ih kept later

/-- Two runs over the same commands that start alike stay alike and give the same reply, if every
command keeps them alike and gets the same reply from both. -/
theorem CommandsRun.alike {take' : String → σ → Except ε Unit × σ} {alike : σ → σ → Prop}
    (step : ∀ command s s', alike s s' →
      (take' command s').1 = (take command s).1 ∧ alike (take command s).2 (take' command s').2)
    {commands handed handed' : List String} {s s' : σ} {outcome outcome' : Except ε Unit × σ}
    (h : CommandsRun take commands s handed outcome)
    (h' : CommandsRun take' commands s' handed' outcome') (start : alike s s') :
    outcome'.1 = outcome.1 ∧ alike outcome.2 outcome'.2 := by
  induction h generalizing s' handed' outcome' with
  | done s =>
      cases h' with
      | done s' => exact ⟨rfl, start⟩
  | @stop command rest s s₁ fault taken =>
      have both := step command s s' start
      cases h' with
      | stop taken' => rwa [taken, taken'] at both
      | next taken' run' =>
          rw [taken, taken'] at both
          cases both.1
  | @next command rest handed s s₁ outcome taken run ih =>
      have both := step command s s' start
      cases h' with
      | stop taken' =>
          rw [taken, taken'] at both
          cases both.1
      | next taken' run' =>
          rw [taken, taken'] at both
          exact ih run' both.2

/-! ## Walking through lines -/

/-- One line is handed on if it is a command once trimmed, and else passed over. -/
theorem takeLines_cons (line : List Char) (rest : List (List Char)) (s : σ) :
    takeLines take (line :: rest) s =
      if isCommand (trim line) then
        match take (String.ofList (trim line)) s with
        | (.ok (), s) => takeLines take rest s
        | (.error fault, s) => (.error fault, s)
      else takeLines take rest s := by
  rw [takeLines]
  cases trim line with
  | nil => rfl
  | cons c command =>
      by_cases h : c = '#'
      · subst h
        rfl
      · rw [if_pos (by simp [isCommand, h])]
        split
        · contradiction
        · simp_all
        · rfl

variable (take) in
/-- Walking through lines takes their commands in order, and what is written down on the way are
the commands handed on. -/
theorem commandsRun_takeLines (lines : List (List Char)) (s : σ) (noted : List String) :
    ∃ handed,
      CommandsRun take (((lines.map trim).filter isCommand).map String.ofList) s handed
        (takeLines take lines s) ∧
      takeLines (noting take) lines (noted, s) =
        ((takeLines take lines s).1, (noted ++ handed, (takeLines take lines s).2)) := by
  induction lines generalizing s noted with
  | nil => exact ⟨[], .done s, by rw [List.append_nil]; rfl⟩
  | cons line rest ih =>
      rw [List.map_cons, List.filter_cons, takeLines_cons, takeLines_cons]
      cases command : isCommand (trim line) with
      | false => exact ih s noted
      | true =>
          rw [if_pos rfl, if_pos rfl, if_pos rfl, List.map_cons]
          -- both walks see the same reply, and both end with the first fault
          cases taken : take (String.ofList (trim line)) s with
          | mk reply s₁ =>
              cases reply with
              | ok =>
                  obtain ⟨handed, run, notes⟩ := ih s₁ (noted ++ [String.ofList (trim line)])
                  refine ⟨_ :: handed, .next taken run, ?_⟩
                  simp only [noting, taken, notes, List.append_assoc, List.singleton_append]
              | error fault =>
                  refine ⟨_, .stop taken, ?_⟩
                  simp only [noting, taken]

end Lines

/-! ## What may become of a command -/

/-- What becomes of a command, whatever executing it would do and whatever the mocks are: an output
of the step is recorded, or the command is executed, or nothing is done. -/
inductive CommandTaken (dialect : Dialect) (id : Option String) (command : String) : Prop where
  | recorded (output : String × String)
      (h : ∀ execute m, Mocks.handle execute dialect id command m = (.ok (), m.record id output))
  | executed (h : ∀ execute m, Mocks.handle execute dialect id command m =
      ((execute command m).1.map fun _ => (), (execute command m).2))
  | ignored (h : ∀ execute m, Mocks.handle execute dialect id command m = (.ok (), m))

theorem commandTaken (dialect : Dialect) (id : Option String) (command : String) :
    CommandTaken dialect id command := by
  cases dialect with
  | standard =>
      cases written :
          if Dialect.mayWrite command then Dialect.standard.written? command else none with
      | none => exact .executed fun execute m => by simp only [Mocks.handle, Mocks.perform, written]
      | some output =>
          exact .recorded output fun execute m => by
            simp only [Mocks.handle, Mocks.perform, written]
  | powershell =>
      cases may : Dialect.mayWrite command with
      | true =>
          cases written : Dialect.powershell.written? command with
          | some output =>
              exact .recorded output fun execute m => by
                simp [Mocks.handle, Mocks.probe, may, written]
          | none =>
              exact .ignored fun execute m => by simp [Mocks.handle, Mocks.probe, may, written]
      | false =>
          -- a mark of the probe counts only here
          cases opened : command.holds "try \x7b" with
          | true =>
              exact .recorded (bashAvailable, "true") fun execute m => by
                simp [Mocks.handle, Mocks.probe, may, opened]
          | false =>
              cases caught : command.holds "\x7d catch \x7b" with
              | true =>
                  exact .recorded (bashAvailable, "false") fun execute m => by
                    simp [Mocks.handle, Mocks.probe, may, opened, caught]
              | false =>
                  exact .ignored fun execute m => by
                    simp [Mocks.handle, Mocks.probe, may, opened, caught]

/-! ## Steps -/

/-- The step with the inputs put into its script. -/
def Step.withInputs (inputs : List (String × String)) (step : Step) : Step :=
  { step with run := step.run.map (interpolate inputs) }

/-- The commands that the rehearsal of a step hands on, in order: those written down when it is
run with everything that is taken noted. -/
def handedCommands (execute : Executor) (inputs : List (String × String)) (step : Step)
    (m : Mocks) : List String :=
  match step.script? with
  | none => []
  | some script =>
    let lines := splitAtNewlines (interpolate inputs script).toList
    (takeLines (noting (Mocks.handle execute (Dialect.ofShell step.shell) step.id)) lines
      ([], m)).2.1

theorem Step.script?_of_run {step : Step} {script : String} (given : step.run = some script)
    (ne : script ≠ "") : step.script? = some script := by
  simp [Step.script?, firstGiven, given, ne]

/-- The script of a step is what it is given, unless that is empty. -/
theorem Step.script?_eq_some_iff {step : Step} {script : String} :
    step.script? = some script ↔ step.run = some script ∧ script ≠ "" := by
  constructor
  · intro h
    cases given : step.run with
    | none => simp [Step.script?, firstGiven, given] at h
    | some text =>
        by_cases empty : text = ""
        · simp [Step.script?, firstGiven, given, empty] at h
        · rw [Step.script?_of_run given empty] at h
          obtain rfl := Option.some.inj h
          exact ⟨rfl, empty⟩
  · rintro ⟨given, ne⟩
    exact Step.script?_of_run given ne

/-- The commands of a step are those of its script, also when the script is empty. -/
theorem Step.commands_of_run {step : Step} {script : String} (given : step.run = some script) :
    step.commands = ActionRehearsal.commands script := by
  by_cases h : script = ""
  · subst h
    simp [Step.commands, Step.script?, firstGiven, given, ActionRehearsal.commands, commandLines,
      splitAtEach, trim, trimStart, trimEnd, isCommand]
  · rw [Step.commands, Step.script?_of_run given h]

theorem Fault.kindName_ne_empty (fault : Fault) : fault.kindName ≠ "" := by
  cases fault with
  | plain kind text =>
      cases kind with
      | other name named => exact named
      | runtime | value | type => simp [Fault.kindName, FailureKind.name]
  | unmatched | aborted | config | tooDeep => simp [Fault.kindName]

/-- What is said of a fault is never empty. -/
theorem Fault.report_ne_empty (fault : Fault) : fault.report ≠ "" := by
  rw [Fault.report]
  split
  · exact fault.kindName_ne_empty
  · assumption

/-- A step is rehearsed by a run over the commands that it has with the inputs put in. -/
theorem commandsRun_rehearseStep (execute : Executor) (inputs : List (String × String))
    {step : Step} {script : String} (given : step.run = some script) (ne : script ≠ "")
    (m : Mocks) :
    ∃ outcome : Except Fault Unit × Mocks,
      CommandsRun (Mocks.handle execute (Dialect.ofShell step.shell) step.id)
        (step.withInputs inputs).commands m (handedCommands execute inputs step m) outcome ∧
      rehearseStepWith execute inputs step m =
        match outcome with
        | (.ok (), m') => (.passed (some (m'.outputsOf step.id)), m')
        | (.error fault, m') => (.failed fault.report, m') := by
  have hscript : step.script? = some script := Step.script?_of_run given ne
  have hrun : (step.withInputs inputs).run = some (interpolate inputs script) := by
    simp [Step.withInputs, given]
  let take := Mocks.handle execute (Dialect.ofShell step.shell) step.id
  let lines := splitAtNewlines (interpolate inputs script).toList
  obtain ⟨handed, run, notes⟩ := commandsRun_takeLines take lines m []
  refine ⟨takeLines take lines m, ?_, ?_⟩
  · have hhanded : handedCommands execute inputs step m = handed := by
      rw [handedCommands, hscript]
      exact congrArg (·.2.1) notes
    rw [hhanded, Step.commands_of_run hrun]
    exact run
  · simp only [rehearseStepWith, hscript]
    rfl

/-- **A rehearsed step takes its commands in order.** What it hands on are the first commands of
its script with the inputs put in. If it passes, they are all of them and none gave a fault, and
its outputs are the recorded ones that start as those of the step do. If it fails, the last one
handed on gave the fault, those before it gave none, the mocks are left as the last one left them,
and what is said of the fault is its text or else the name of its kind, so something is said. -/
theorem rehearseStep_takes_commands (places : Nat) (inputs : List (String × String)) (step : Step)
    (m : Mocks) {script : String} (given : step.run = some script) (ne : script ≠ "") :
    let execute := Mocks.dispatch (places - 2)
    let take := Mocks.handle execute (Dialect.ofShell step.shell) step.id
    let commands := (step.withInputs inputs).commands
    let handed := handedCommands execute inputs step m
    handed <+: commands ∧
      (∀ outputs m', rehearseStep places inputs step m = (.passed outputs, m') →
        handed = commands ∧ Passes take commands m m' ∧
          ∃ own, outputs = some own ∧ own.entries = m'.outputs.entries.filter fun output =>
            ("steps." ++ step.id.getD "None").toList.isPrefixOf output.1.toList) ∧
      ∀ error m', rehearseStep places inputs step m = (.failed error, m') →
        ∃ before command m₁ fault, handed = before ++ [command] ∧ Passes take before m m₁ ∧
          take command m₁ = (.error fault, m') ∧
          error = (if fault.text = "" then fault.kindName else fault.text) ∧ error ≠ "" := by
  intro execute take commands handed
  obtain ⟨outcome, run, result⟩ := commandsRun_rehearseStep execute inputs given ne m
  have hstep : rehearseStep places inputs step m = rehearseStepWith execute inputs step m := rfl
  rw [hstep, result]
  obtain ⟨reply, left⟩ := outcome
  refine ⟨run.handed_first, ?_, ?_⟩
  · intro outputs m' passed
    cases reply with
    | error fault => cases passed
    | ok =>
        cases passed
        obtain ⟨all, passes⟩ := run.passes rfl
        exact ⟨all, passes, _, rfl, rfl⟩
  · intro error m' failed
    cases reply with
    | ok => cases failed
    | error fault =>
        cases failed
        obtain ⟨before, command, m₁, last, passes, fails⟩ := run.fails rfl
        exact ⟨before, command, m₁, fault, last, passes, fails, rfl, fault.report_ne_empty⟩

/-- A script that puts in an input, and whose third line nothing is registered for. -/
def stuckScript : String := "echo $\x7b\x7b inputs.count \x7d\x7d\n# two\nfalse\necho three"

/-- A step with that script. -/
def stuckStep : Step := { id := some "probe", run := some stuckScript }

/-- The input, whose value is not a text. -/
def countInput : Mapping := [(.text "count", .int 3)]

/-- Mocks that know only `echo`. -/
def echoMocks : Mocks := ({} : Mocks).register "echo" (.finish (.ok (.bool true)))

/-- A kind of failure of its own. -/
def toolFailure : FailureKind := .other "ToolError" (by decide)

/-- Mocks that know `false` as well, which fails in that way and says nothing. -/
def silentMocks : Mocks := echoMocks.register "false" (.finish (.error (.plain toolFailure none)))

theorem stuckStep_stops :
    stuckStep.run = some stuckScript ∧ stuckScript ≠ "" ∧
      (rehearseStep 993 (inputTexts countInput) stuckStep echoMocks).1 =
        .failed "No mock found for command: false" ∧
      (∃ before command m₁ fault,
        handedCommands (Mocks.dispatch 991) (inputTexts countInput) stuckStep echoMocks =
            before ++ [command] ∧
          Passes (Mocks.handle (Mocks.dispatch 991) .standard (some "probe")) before echoMocks m₁ ∧
          (Mocks.handle (Mocks.dispatch 991) .standard (some "probe") command m₁).1 =
            .error fault) ∧
      (rehearseStep 993 (inputTexts countInput) stuckStep silentMocks).1 = .failed "ToolError" ∧
      handedCommands (Mocks.dispatch 991) (inputTexts countInput) stuckStep silentMocks =
        ["echo 3", "false"] ∧
      ∃ m₁ fault, Passes (Mocks.handle (Mocks.dispatch 991) .standard (some "probe")) ["echo 3"]
          silentMocks m₁ ∧
        (Mocks.handle (Mocks.dispatch 991) .standard (some "probe") "false" m₁).1 = .error fault ∧
        "ToolError" = (if fault.text = "" then fault.kindName else fault.text) := by
  have given : stuckStep.run = some stuckScript := rfl
  have ne : stuckScript ≠ "" := by decide
  have unknown : (rehearseStep 993 (inputTexts countInput) stuckStep echoMocks).1 =
      .failed "No mock found for command: false" := by decide +kernel
  have silent : (rehearseStep 993 (inputTexts countInput) stuckStep silentMocks).1 =
      .failed "ToolError" := by decide +kernel
  have two_handed : handedCommands (Mocks.dispatch 991) (inputTexts countInput) stuckStep silentMocks =
      ["echo 3"] ++ ["false"] := by decide +kernel
  refine ⟨given, ne, unknown, ?_, silent, two_handed, ?_⟩
  · obtain ⟨-, -, last⟩ :=
      rehearseStep_takes_commands 993 (inputTexts countInput) stuckStep echoMocks given ne
    obtain ⟨before, command, m₁, fault, handed, passes, fails, -⟩ := last _ _ (Prod.ext unknown rfl)
    exact ⟨before, command, m₁, fault, handed, passes, congrArg Prod.fst fails⟩
  · obtain ⟨-, -, last⟩ :=
      rehearseStep_takes_commands 993 (inputTexts countInput) stuckStep silentMocks given ne
    obtain ⟨before, command, m₁, fault, handed, passes, fails, said, -⟩ :=
      last _ _ (Prod.ext silent rfl)
    obtain ⟨rfl, same⟩ := List.append_inj' (two_handed.symm.trans handed) rfl
    obtain rfl := List.singleton_inj.1 same
    exact ⟨m₁, fault, passes, congrArg Prod.fst fails, said⟩

end ActionRehearsal
