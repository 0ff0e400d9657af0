import ActionRehearsal.Proofs.CommandLine.Results
import ActionRehearsal.Proofs.CommandLine.StandIns

/-!
# Permissive rehearsals

If every command without a stand-in of its own is to succeed and no pattern is to fail, every command
succeeds: the empty pattern occurs in all of them, so each goes to some handler, and no handler fails
(`dispatch_of_permissive`). Taking a command of a step then gives no fault either, whether it writes an
output, only looks as if it did, or is executed.

The main statement, `runIn_permissive_passes`, is that a run with such options reaches every step, skips it
or lets it pass, and ends with status 0 unless its report cannot be written.
-/

set_option autoImplicit false

namespace ActionRehearsal.CommandLine

open ActionRehearsal.Files ActionRehearsal.Text Mocks

/-- Whether every command is to succeed: no pattern fails, and the empty one succeeds. -/
structure Permissive (options : SimulateOptions) : Prop where
  permissive : options.permissive = true
  fails : options.fails = []

section Commands

variable {options : SimulateOptions}

/-- Then all registered patterns succeed. -/
theorem Permissive.replaced (h : Permissive options) {pattern : String}
    (mem : pattern ∈ registered options) : Replaced options pattern := by
  rw [registered, h.fails, h.permissive, List.nil_append, List.mem_append] at mem
  rcases mem with mocked | any
  · exact .inl mocked
  · exact .inr ⟨h.permissive, List.mem_singleton.1 any⟩

/-- Executing any command gives a value, with two places for nested calls or more. -/
theorem dispatch_of_permissive (h : Permissive options) {m : Mocks}
    (same : m.handlers = (standIns options).handlers) (command : String) (places : Nat) :
    (dispatch (places + 2) command m).1 = .ok (.bool true) := by
  have holds_empty : command.holds "" = true := String.holds_iff.2 List.nil_infix
  have empty_mem : "" ∈ registered options := by
    rw [registered, h.permissive]
    exact List.mem_append_right _ (List.mem_append_right _ List.mem_cons_self)
  cases first : (registered options).find? fun p => command.holds p with
  | none => exact absurd holds_empty (List.find?_eq_none.1 first "" empty_mem)
  | some pattern =>
      have found : m.handlerFor? command = some (standIn options pattern) := by
        rw [handlerFor?_standIns same, first]
        rfl
      have fixed := fixedReply?_standIn options pattern
      rw [if_pos (h.replaced (List.mem_of_find?_eq_some first))] at fixed
      rw [dispatch, found]
      exact (Handler.run_of_fixedReply? fixed _ m).2

/-- So taking a command of a step gives no fault in any dialect. -/
theorem handle_of_permissive (h : Permissive options) {m : Mocks}
    (same : m.handlers = (standIns options).handlers) (dialect : Dialect) (id : Option String)
    (command : String) (places : Nat) :
    (m.handle (dispatch (places + 2)) dialect id command).1 = .ok () := by
  cases commandTaken dialect id command with
  | recorded output taken => rw [taken]
  | ignored taken => rw [taken]
  | executed taken =>
      rw [taken, dispatch_of_permissive h same]
      rfl

end Commands

/-! ## Steps and rehearsals -/

section Rehearsals

variable {options : SimulateOptions}

/-- A step whose commands cannot fail passes. -/
theorem rehearseStep_of_permissive (h : Permissive options) {m : Mocks}
    (same : m.handlers = (standIns options).handlers) (places : Nat)
    (inputs : List (String × String)) (step : Step) :
    ∃ outputs, (rehearseStep (places + 4) inputs step m).1 = .passed outputs := by
  cases hscript : step.script? with
  | none => exact ⟨none, by simp [rehearseStep, rehearseStepWith, hscript]⟩
  | some script =>
      obtain ⟨given, ne⟩ := Step.script?_eq_some_iff.1 hscript
      obtain ⟨⟨reply, left⟩, run, result⟩ :=
        commandsRun_rehearseStep (dispatch (places + 2)) inputs given ne m
      have passive : m.AllPassive := allFixed_standIns.allPassive.of_handlers_eq same
      -- no command changes the registry, so the next one passes as well
      have passes_and_keeps (command : String) (m' : Mocks) (kept : m'.handlers = m.handlers) :
          (m'.handle (dispatch (places + 2)) (Dialect.ofShell step.shell) step.id command).1 =
              .ok () ∧
            (m'.handle (dispatch (places + 2)) (Dialect.ofShell step.shell) step.id
              command).2.handlers = m.handlers :=
        ⟨handle_of_permissive h (kept.trans same) _ _ _ _, handlers_handle passive kept _ _ _ _⟩
      have passes : reply = .ok () := run.ok passes_and_keeps rfl
      rw [passes] at result
      exact ⟨_, congrArg Prod.fst result⟩

/-- No step of a rehearsal fails. -/
theorem isFailed_of_permissive (h : Permissive options) {a : Action} {inputs : Table String String}
    {entry : Entry} (mem : entry ∈ (rehearsed options a inputs).1) : isFailed entry = false := by
  obtain ⟨step, result⟩ := entry
  have run : StepsRun (allPlaces - 1) inputs.entries a.steps (standIns options) _ _ :=
    stepsRun_rehearseSteps a.steps (standIns options)
  -- the steps before this one have left the registry as it was
  obtain ⟨earlier, rest, passed, before, after, -, first_run, taken⟩ := run.split_at_entry mem
  have same : before.handlers = (standIns options).handlers :=
    (first_run.writesOnly allFixed_standIns.allPassive).handlers
  cases taken with
  | skipped guard => rfl
  | rehearsed guard =>
      obtain ⟨outputs, passes⟩ := rehearseStep_of_permissive h same 988 inputs.entries step
      have passes' : (rehearseStep (allPlaces - 1) inputs.entries step before).1 = .passed outputs :=
        passes
      rw [passes']
      rfl

end Rehearsals

/-- **A permissive run does not fail, unless its report cannot be written.** A run that rehearses an action,
in which every command is to succeed and no pattern is to fail, has an entry for every step, in order. Each
step was skipped or has passed. The exit status is 0 if the encoding takes the report, and then no fault
escapes; otherwise it is 1. For an encoding that takes ASCII characters it depends on the labels of the steps
and on the outputs which of the two it is. -/
theorem runIn_permissive_passes [Platform] {encoding : Encoding} {world : Surroundings}
    {settings : Settings} {arguments : List String} {debug : Bool} {options : SimulateOptions}
    {a : Action} {inputs : Table String String}
    (h : Rehearses world settings arguments debug options a inputs)
    (permissive : options.permissive = true) (fails : options.fails = []) :
    let entries := (rehearsed options a inputs).1
    let report := rehearsalReport ⟨debug⟩ entries (rehearsed options a inputs).2.notes
    let outcome := runIn encoding world settings arguments
    entries.map (·.1) = a.steps ∧
      (∀ entry ∈ entries, entry.2 = none ∨ ∃ outputs, entry.2 = some (.passed outputs)) ∧
      outcome.FailsIf (encoding.writes report = false) ∧
      (outcome.escape = none ↔ encoding.writes report = true) ∧
      (encoding.TakesAscii → (encoding.writes report = true ↔
        ∀ entry ∈ entries, ∀ text ∈ reportTexts ⟨debug⟩ entry, encoding.takesAll text = true)) := by
  intro entries report outcome
  have steps_run : StepsRun (allPlaces - 1) inputs.entries a.steps (standIns options) entries _ :=
    stepsRun_rehearseSteps a.steps (standIns options)
  have passed (entry : Entry) (mem : entry ∈ entries) : isFailed entry = false :=
    isFailed_of_permissive ⟨permissive, fails⟩ mem
  refine ⟨?_, ?_, ?_, ?_, fun ascii => writes_rehearsalReport_iff ascii⟩
  · refine steps_run.pairs_steps.eq_of_length_le ?_
    rw [List.length_map]
    -- a rehearsal that is cut short ends with a failure
    by_contra short
    obtain ⟨entry, last, failed⟩ := steps_run.last_failed (Nat.lt_of_not_le short)
    rw [passed entry (List.mem_of_getLast? last)] at failed
    cases failed
  · rintro ⟨step, _ | outputs | error⟩ mem
    · exact .inl rfl
    · exact .inr ⟨outputs, rfl⟩
    · cases passed _ mem
  · have none_failed : hasFailure entries = false := by
      refine List.any_eq_false.2 fun entry mem => ?_
      rw [Bool.not_eq_true]
      exact passed entry mem
    cases writes : encoding.writes report with
    | true =>
        have run_eq : outcome = .done _ (hasFailure entries) := h.runIn_of_writes writes
        rw [run_eq, none_failed]
        exact (Outcome.failsIf_done _ _).of_iff (iff_of_false nofun nofun)
    | false =>
        obtain ⟨fault, run_eq⟩ := h.exists_runIn_of_not_writes writes
        rw [show outcome = _ from run_eq]
        exact (Outcome.failsIf_cut _ _).of_iff (iff_of_true trivial rfl)
  · cases writes : encoding.writes report with
    | true =>
        have run_eq : outcome = .done _ (hasFailure entries) := h.runIn_of_writes writes
        rw [run_eq]
        exact iff_of_true rfl rfl
    | false =>
        obtain ⟨fault, run_eq⟩ := h.exists_runIn_of_not_writes writes
        rw [show outcome = _ from run_eq]
        exact iff_of_false nofun nofun

/-- One command has a stand-in of its own, and the other has none. -/
theorem runIn_permissive_passes_twins :
    Rehearses (folderWith twins) {} ["simulate", "--input", "n= 1", "--permissive", "--mock", "ls"]
      false { inputs := ["n= 1"], mocks := ["ls"], permissive := true } twinsAction
      (.ofList [("n", " 1")]) ∧
    (rehearsed { inputs := ["n= 1"], mocks := ["ls"], permissive := true } twinsAction
      (.ofList [("n", " 1")])).1.map (·.1) = twinsAction.steps ∧
    (runIn .utf8 (folderWith twins) {}
      ["simulate", "--input", "n= 1", "--permissive", "--mock", "ls"]).status = 0 := by
  have rehearses : Rehearses (folderWith twins) {}
      ["simulate", "--input", "n= 1", "--permissive", "--mock", "ls"] false
      { inputs := ["n= 1"], mocks := ["ls"], permissive := true } twinsAction
      (.ofList [("n", " 1")]) :=
    ⟨by decide +kernel, twins_accepted, by decide +kernel, by decide +kernel⟩
  have writes : Encoding.utf8.writes (rehearsalReport ⟨false⟩
      (rehearsed { inputs := ["n= 1"], mocks := ["ls"], permissive := true } twinsAction
        (.ofList [("n", " 1")])).1
      (rehearsed { inputs := ["n= 1"], mocks := ["ls"], permissive := true } twinsAction
        (.ofList [("n", " 1")])).2.notes) = true := by decide +kernel
  obtain ⟨reached, -, ⟨zero_or_one, fails⟩, -⟩ := runIn_permissive_passes rehearses rfl rfl
  refine ⟨rehearses, reached, zero_or_one.resolve_right fun one => ?_⟩
  rw [fails.1 one] at writes
  cases writes

/-- With a name that cannot be written the exit status is not 0, though every command succeeds. -/
theorem halves_fail_permissive :
    ¬∀ (world : Surroundings) (settings : Settings) (arguments : List String) (debug : Bool)
      (options : SimulateOptions) (a : Action) (inputs : Table String String),
      Rehearses world settings arguments debug options a inputs → options.permissive = true →
        options.fails = [] → (runIn .utf8 world settings arguments).status = 0 := by
  intro claim
  have passes := claim _ _ _ _ _ _ _ halves_rehearsed rfl rfl
  rw [runIn_halves] at passes
  cases passes

end ActionRehearsal.CommandLine
