import ActionRehearsal.CommandLine.Simulate
import ActionRehearsal.Proofs.Placeholder
import ActionRehearsal.Proofs.Rehearsal.Isolation

/-!
# The stand-ins of a rehearsal

The failing patterns are registered first, so that they come before all others. But a pattern that is
registered once more keeps its place and gets the later handler: a failing pattern that is also a
succeeding one, or the empty one if every other command is to succeed, stands in front and succeeds
(`standIn`). `handlerFor?_standIns` says which handler any command goes to.

The main statement, `standIns_failing`, is about the commands that hold a failing pattern. The first such
pattern decides: if it was not registered again, executing the command fails with that pattern, and so
does every step that executes it; else the command succeeds. `repeated_pattern_succeeds` is a case of
that.
-/

set_option autoImplicit false

namespace ActionRehearsal.CommandLine

open Mocks

/-! ## What is registered -/

variable (options : SimulateOptions)

/-- The patterns that are registered, in turn. -/
def registered : List String :=
  options.fails ++ (options.mocks ++ if options.permissive then [""] else [])

/-- The patterns with the handlers that they are registered with, in turn. -/
def registrations : List (String × Handler) :=
  options.fails.map (fun p => (p, failing p)) ++
    (options.mocks.map (fun p => (p, succeeding p)) ++
      if options.permissive then [("", succeeding "<any>")] else [])

/-- The handler that a registered pattern is left with. -/
def standIn (pattern : String) : Handler :=
  if options.permissive = true ∧ pattern = "" then succeeding "<any>"
  else if pattern ∈ options.mocks then succeeding pattern
  else failing pattern

theorem handlers_registerAll (handler : String → Handler) (patterns : List String) (m : Mocks) :
    (registerAll handler patterns m).handlers =
      m.handlers.update (patterns.map fun p => (p, handler p)) := by
  induction patterns generalizing m with
  | nil => rfl
  | cons pattern patterns ih => exact ih (m.register pattern (handler pattern))

theorem handlers_standIns : (standIns options).handlers = Table.ofList (registrations options) := by
  have update_append (t : Table String Handler) (changes more : List (String × Handler)) :
      t.update (changes ++ more) = (t.update changes).update more := List.foldl_append
  rw [registrations, Table.ofList, update_append, update_append, standIns]
  cases options.permissive with
  | true => simp only [if_true, register, handlers_registerAll]; rfl
  | false => simp only [Bool.false_eq_true, if_false, handlers_registerAll]; rfl

theorem keys_registrations : (registrations options).map (·.1) = registered options := by
  have keys (handler : String → Handler) (patterns : List String) :
      (patterns.map fun p => (p, handler p)).map (·.1) = patterns := by
    rw [List.map_map]
    exact List.map_id _
  rw [registrations, registered, List.map_append, List.map_append, keys, keys]
  cases options.permissive with
  | true => rfl
  | false => rfl

/-- Of the handlers that a pattern is registered with, the last one counts. -/
theorem lookup_registrations {pattern : String} (mem : pattern ∈ registered options) :
    (registrations options).reverse.lookup pattern = some (standIn options pattern) := by
  have lookup_last (handler : String → Handler) (patterns : List String) :
      (patterns.map fun p => (p, handler p)).reverse.lookup pattern =
        if pattern ∈ patterns then some (handler pattern) else none := by
    rw [← List.map_reverse, Table.lookup_map_self]
    simp only [List.mem_reverse]
  rw [registered, List.mem_append, List.mem_append, List.mem_ite_nil_right,
    List.mem_singleton] at mem
  rw [registrations, List.reverse_append, List.reverse_append, List.lookup_append, List.lookup_append,
    lookup_last, lookup_last, standIn]
  by_cases any : options.permissive = true ∧ pattern = ""
  · obtain ⟨permissive, rfl⟩ := any
    simp [permissive]
  · -- the pattern that stands for every command is not this one
    have others : (if options.permissive then [("", succeeding "<any>")] else []).reverse.lookup
        pattern = none := by
      cases permissive : options.permissive with
      | false => rfl
      | true =>
          have ne : pattern ≠ "" := fun empty => any ⟨permissive, empty⟩
          simp [List.lookup_cons, beq_false_of_ne ne]
    rw [others, if_neg any, Option.none_or]
    by_cases mocked : pattern ∈ options.mocks
    · rw [if_pos mocked, if_pos mocked, Option.some_or]
    · have failed : pattern ∈ options.fails := by
        rcases mem with failed | mocked' | more
        · exact failed
        · exact absurd mocked' mocked
        · exact absurd more any
      rw [if_neg mocked, if_neg mocked, if_pos failed, Option.none_or]

variable {options}

/-- A command goes to the first registered pattern that it holds. -/
theorem handlerFor?_standIns {m : Mocks} (same : m.handlers = (standIns options).handlers)
    (command : String) :
    m.handlerFor? command =
      ((registered options).find? fun p => command.holds p).map (standIn options) := by
  have first : (registered options).find? (fun p => command.holds p) =
      ((registrations options).find? fun entry => command.holds entry.1).map (·.1) := by
    rw [← keys_registrations]
    exact List.find?_map
  -- which pattern is found depends on the first registration, which handler it has on the last
  rw [handlerFor?, same, handlers_standIns, Table.find?_entries_ofList, first]
  cases found : (registrations options).find? fun entry => command.holds entry.1 with
  | none => rfl
  | some entry =>
      have mem : entry.1 ∈ registered options := by
        rw [← keys_registrations]
        exact List.mem_map_of_mem (List.mem_of_find?_eq_some found)
      exact lookup_registrations options mem

/-! ## What they do -/

/-- Whether a pattern is registered again as one that succeeds. -/
def Replaced (options : SimulateOptions) (pattern : String) : Prop :=
  pattern ∈ options.mocks ∨ options.permissive = true ∧ pattern = ""

instance (options : SimulateOptions) (pattern : String) : Decidable (Replaced options pattern) :=
  inferInstanceAs (Decidable (_ ∨ _))

theorem fixedReply?_standIn (options : SimulateOptions) (pattern : String) :
    (standIn options pattern).fixedReply? =
      if Replaced options pattern then some (.ok (.bool true))
      else some (.error (.aborted (.text ("mocked failure: " ++ pattern)))) := by
  rw [standIn]
  by_cases any : options.permissive = true ∧ pattern = ""
  · rw [if_pos any, if_pos (.inr any)]
    rfl
  · rw [if_neg any]
    by_cases mocked : pattern ∈ options.mocks
    · rw [if_pos mocked, if_pos (.inl mocked)]
      rfl
    · have kept : ¬Replaced options pattern := not_or.2 ⟨mocked, any⟩
      rw [if_neg mocked, if_neg kept]
      rfl

theorem allFixed_standIns : (standIns options).AllFixed := by
  intro entry mem
  rw [handlers_standIns] at mem
  -- whatever is left in the registry was registered at some time
  have given := Table.mem_of_mem_ofList mem
  rw [registrations, List.mem_append, List.mem_append, List.mem_ite_nil_right,
    List.mem_singleton] at given
  rcases given with failed | mocked | ⟨-, rfl⟩
  · obtain ⟨pattern, -, rfl⟩ := List.mem_map.1 failed
    rfl
  · obtain ⟨pattern, -, rfl⟩ := List.mem_map.1 mocked
    rfl
  · rfl

/-- Executing a command that holds a failing pattern: the first one decides. -/
theorem dispatch_of_fails {m : Mocks} (same : m.handlers = (standIns options).handlers)
    {command pattern : String}
    (first : options.fails.find? (fun p => command.holds p) = some pattern) (places : Nat) :
    (dispatch (places + 2) command m).1 =
      if Replaced options pattern then .ok (.bool true)
      else .error (.aborted (.text ("mocked failure: " ++ pattern))) := by
  have found : m.handlerFor? command = some (standIn options pattern) := by
    rw [handlerFor?_standIns same, registered, List.find?_append, first]
    rfl
  have fixed := fixedReply?_standIn options pattern
  rw [← apply_ite] at fixed
  rw [dispatch, found]
  exact (Handler.run_of_fixedReply? fixed _ m).2

/-! ## Steps that execute a command -/

/-- Under all shells but PowerShell, a command that writes no output is executed. -/
theorem handle_of_not_written {shell id : Option String} {command : String}
    (executing : Dialect.ofShell shell = .standard)
    (unwritten : Dialect.mayWrite command = true → Dialect.standard.written? command = none)
    (execute : Executor) (m : Mocks) :
    m.handle execute (Dialect.ofShell shell) id command =
      ((execute command m).1.map fun _ => (), (execute command m).2) := by
  have none_written :
      (if Dialect.mayWrite command then Dialect.standard.written? command else none) = none := by
    split
    · exact unwritten ‹_›
    · rfl
  rw [executing]
  simp only [Mocks.handle, Mocks.perform, none_written]

/-- Only a step with a script has commands. -/
theorem exists_script_of_command {step : Step} {inputs : List (String × String)} {command : String}
    (mem : command ∈ (step.withInputs inputs).commands) :
    ∃ script, step.run = some script ∧ script ≠ "" := by
  cases given : step.run with
  | none => simp [Step.commands, Step.script?, Step.withInputs, firstGiven, given] at mem
  | some script =>
      refine ⟨script, rfl, fun empty => ?_⟩
      subst empty
      have no_opening : ¬Placeholder.opening <:+: "".toList := by decide
      simp [Step.commands, Step.script?, Step.withInputs, firstGiven, given,
        interpolate_eq_self no_opening] at mem

/-- A step does not pass if one of its commands fails whenever the registry is this one. -/
theorem isFailure_rehearseStep {m : Mocks} (passive : m.AllPassive) (places : Nat)
    (inputs : List (String × String)) {step : Step} {command : String}
    (mem : command ∈ (step.withInputs inputs).commands)
    (fails : ∀ before : Mocks, before.handlers = m.handlers →
      (before.handle (dispatch (places - 2)) (Dialect.ofShell step.shell) step.id command).1 ≠ .ok ()) :
    (rehearseStep places inputs step m).1.isFailure = true := by
  obtain ⟨script, given, ne⟩ := exists_script_of_command mem
  obtain ⟨⟨reply, left⟩, run, result⟩ :=
    commandsRun_rehearseStep (dispatch (places - 2)) inputs given ne m
  rw [rehearseStep, result]
  cases reply with
  | error fault => rfl
  | ok =>
      -- every command passed, and none changed the registry
      obtain ⟨-, passes⟩ := run.passes rfl
      have keeps (command : String) (before : Mocks) (same : before.handlers = m.handlers) :
          (before.handle (dispatch (places - 2)) (Dialect.ofShell step.shell) step.id
            command).2.handlers = m.handlers := handlers_handle passive same _ _ _ _
      obtain ⟨before, after, same, passed⟩ := passes.taken_of_mem keeps rfl mem
      exact absurd (congrArg Prod.fst passed) (fails before same)

/-- **Which commands fail.** Of the failing patterns that a command holds, the first one decides. If it is
not registered again as one that succeeds, executing the command fails with that pattern, and every step
of a rehearsal that is run and executes the command fails; else executing it succeeds. -/
theorem standIns_failing (options : SimulateOptions) {command pattern : String}
    (first : options.fails.find? (fun p => command.holds p) = some pattern) :
    (∀ m : Mocks, m.handlers = (standIns options).handlers →
      (¬Replaced options pattern →
        (m.execute command).1 = .error (.aborted (.text ("mocked failure: " ++ pattern)))) ∧
      (Replaced options pattern → (m.execute command).1 = .ok (.bool true))) ∧
    (¬Replaced options pattern → ∀ a inputs step result,
      (step, some result) ∈ (rehearsed options a inputs).1 →
      Dialect.ofShell step.shell = .standard →
      command ∈ (step.withInputs inputs.entries).commands →
      (Dialect.mayWrite command = true → Dialect.standard.written? command = none) →
      result.isFailure = true) := by
  constructor
  · intro m same
    have reply := dispatch_of_fails same first (allPlaces - 2)
    constructor
    · intro kept
      rwa [if_neg kept] at reply
    · intro again
      rwa [if_pos again] at reply
  · intro kept a inputs step result mem executing has unwritten
    have run : StepsRun (allPlaces - 1) inputs.entries a.steps (standIns options) _ _ :=
      stepsRun_rehearseSteps a.steps (standIns options)
    -- no step before this one has changed the registry
    obtain ⟨earlier, rest, passed, before, after, -, first_run, taken⟩ := run.split_at_entry mem
    have same : before.handlers = (standIns options).handlers :=
      (first_run.writesOnly allFixed_standIns.allPassive).handlers
    cases taken with
    | rehearsed guard =>
        refine isFailure_rehearseStep (allFixed_standIns.allPassive.of_handlers_eq same) _ _ has ?_
        intro reached unchanged passes
        -- of the places for nested calls the rehearsal and the step have taken three
        have failed := dispatch_of_fails (unchanged.trans same) first 988
        rw [if_neg kept] at failed
        rw [handle_of_not_written executing unwritten] at passes
        have ok : Except.map (fun _ => ()) (dispatch (988 + 2) command reached).1 = .ok () := passes
        rw [failed] at ok
        cases ok

/-- Options with a failing pattern that holds a pattern which is both failing and succeeding. -/
def npmOptions : SimulateOptions where
  fails := ["npm install", "npm"]
  mocks := ["npm", "git"]
  permissive := true

/-- An action with a step for each of them. -/
def npmAction : Action where
  name := "Install"
  description := "Installs packages"
  author := ""
  inputs := {}
  runner := "composite"
  steps := [{ name := "build", run := some "git pull\nnpm ci" },
    { name := "add", run := some "ls\n# one more\nnpm install left-pad" }]

theorem standIns_failing_npm :
    npmOptions.fails.find? (fun p => "npm install left-pad".holds p) = some "npm install" ∧
      ¬Replaced npmOptions "npm install" ∧
      ((standIns npmOptions).execute "npm install left-pad").1 =
        .error (.aborted (.text ("mocked failure: " ++ "npm install"))) ∧
      (rehearsed npmOptions npmAction {}).1.map (·.1.name) = ["build", "add"] ∧
      ∀ step result, (step, some result) ∈ (rehearsed npmOptions npmAction {}).1 →
        "npm install left-pad" ∈ (step.withInputs []).commands →
        Dialect.ofShell step.shell = .standard → result.isFailure = true := by
  have first : npmOptions.fails.find? (fun p => "npm install left-pad".holds p) =
      some "npm install" := by decide +kernel
  have kept : ¬Replaced npmOptions "npm install" := by decide +kernel
  have both : (rehearsed npmOptions npmAction {}).1.map (·.1.name) = ["build", "add"] := by
    decide +kernel
  have writes_not : Dialect.mayWrite "npm install left-pad" = false := by decide +kernel
  obtain ⟨executed, rehearsals⟩ := standIns_failing npmOptions first
  refine ⟨first, kept, (executed _ rfl).1 kept, both, fun step result mem has standard => ?_⟩
  refine rehearsals kept npmAction {} step result mem standard has fun may => ?_
  rw [writes_not] at may
  cases may

/-- A command that holds a failing pattern does not always fail: the same pattern may be a succeeding one
too, and that is registered later. -/
theorem repeated_pattern_succeeds :
    ¬∀ (options : SimulateOptions) (command pattern : String),
      options.fails.find? (fun p => command.holds p) = some pattern →
      ((standIns options).execute command).1 =
        .error (.aborted (.text ("mocked failure: " ++ pattern))) := by
  intro claim
  let options : SimulateOptions := { fails := ["npm"], mocks := ["npm"] }
  have first : options.fails.find? (fun p => "npm ci".holds p) = some "npm" := by decide +kernel
  have fails := claim options "npm ci" "npm" first
  have passes : ((standIns options).execute "npm ci").1.isOk = true := by decide +kernel
  rw [fails] at passes
  cases passes

end ActionRehearsal.CommandLine
