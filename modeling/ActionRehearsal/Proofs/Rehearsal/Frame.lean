import ActionRehearsal.Proofs.Rehearsal.Commands
import ActionRehearsal.Proofs.Rehearsal.Sequence
import ActionRehearsal.Proofs.Table

/-!
# What a rehearsal may write

`Mocks.WritesOnly allowed m m'` says that on the way from `m` to `m'` only outputs at allowed
places were written: the registry is the same, the places that were there are still there in the
same order, and a value that is new or changed stands at an allowed place. It is carried from one
command to a step and from one step to a whole rehearsal, with the places of the steps that were run
as the allowed ones.

The main statement is `rehearse_writes`. It asks that the handlers leave the mocks alone
(`Handler.Passive`), since a handler might write anything itself.
-/

set_option autoImplicit false

namespace ActionRehearsal

/-! ## Handlers that leave the mocks alone -/

/-- The handlers that change neither the registry nor the outputs: they may look at both, take notes
and run commands. -/
inductive Handler.Passive : Handler → Prop where
  | finish (reply : Reply) : Passive (.finish reply)
  | note {text : String} {next : Handler} (h : next.Passive) : Passive (.note text next)
  | recall {next : List String → Handler} (h : ∀ notes, (next notes).Passive) :
      Passive (.recall next)
  | getOutput {key : String} {next : Option String → Handler} (h : ∀ value, (next value).Passive) :
      Passive (.getOutput key next)
  | listOutputs {next : Table String String → Handler} (h : ∀ outputs, (next outputs).Passive) :
      Passive (.listOutputs next)
  | listPatterns {next : List String → Handler} (h : ∀ patterns, (next patterns).Passive) :
      Passive (.listPatterns next)
  | execute {command : String} {next : Reply → Handler} (h : ∀ reply, (next reply).Passive) :
      Passive (.execute command next)

namespace Mocks

/-- Whether all registered handlers have a property. -/
def AllHandlers (p : Handler → Prop) (m : Mocks) : Prop := ∀ entry ∈ m.handlers.entries, p entry.2

theorem AllHandlers.of_handlers_eq {p : Handler → Prop} {m m' : Mocks} (h : m.AllHandlers p)
    (same : m'.handlers = m.handlers) : m'.AllHandlers p := by
  intro entry mem
  rw [same] at mem
  exact h entry mem

/-- So the handler that a command goes to has it. -/
theorem AllHandlers.handlerFor? {p : Handler → Prop} {m : Mocks} (h : m.AllHandlers p)
    {command : String} {handler : Handler} (found : m.handlerFor? command = some handler) :
    p handler := by
  obtain ⟨entry, hentry, rfl⟩ := Option.map_eq_some_iff.1 found
  exact h entry (List.mem_of_find?_eq_some hentry)

/-- Whether all registered handlers leave the mocks alone. -/
abbrev AllPassive (m : Mocks) : Prop := m.AllHandlers Handler.Passive

/-- Whether the registry and the outputs are the same, whatever was noted. -/
structure SameButNotes (m m' : Mocks) : Prop where
  handlers : m'.handlers = m.handlers
  outputs : m'.outputs = m.outputs

theorem SameButNotes.refl (m : Mocks) : SameButNotes m m := ⟨rfl, rfl⟩

theorem SameButNotes.trans {a b c : Mocks} (h : SameButNotes a b) (g : SameButNotes b c) :
    SameButNotes a c :=
  ⟨g.handlers.trans h.handlers, g.outputs.trans h.outputs⟩

theorem sameButNotes_note (m : Mocks) (text : String) : SameButNotes m (m.note text) := ⟨rfl, rfl⟩

/-- Whether executing a command leaves mocks with passive handlers alone. -/
def LeavesAlone (execute : Executor) : Prop :=
  ∀ command m, m.AllPassive → SameButNotes m (execute command m).2

end Mocks

open Mocks

/-- A passive handler leaves the mocks alone, if the commands that it runs do. -/
theorem Handler.Passive.run {handler : Handler} (h : handler.Passive) {dispatch : Executor}
    (leaves : LeavesAlone dispatch) {m : Mocks} (passive : m.AllPassive) :
    SameButNotes m (handler.run dispatch m).2 := by
  induction h generalizing m with
  | finish reply => exact .refl m
  | @note text next h ih =>
      have noted := sameButNotes_note m text
      exact noted.trans (ih (passive.of_handlers_eq noted.handlers))
  | «recall» h ih => exact ih m.notes passive
  | getOutput h ih => exact ih _ passive
  | listOutputs h ih => exact ih m.outputs passive
  | listPatterns h ih => exact ih m.patterns passive
  | @execute command next h ih =>
      have executed := leaves command m passive
      exact executed.trans (ih _ (passive.of_handlers_eq executed.handlers))

/-- So dispatching a command does, with any number of places for nested calls. -/
theorem Mocks.leavesAlone_dispatch (places : Nat) : LeavesAlone (dispatch places) := by
  induction places using Nat.twoStepInduction with
  | zero => exact fun command m passive => .refl m
  | one => exact fun command m passive => .refl m
  | more places ih ih' =>
      intro command m passive
      rw [dispatch]
      cases found : m.handlerFor? command with
      | none => exact .refl m
      | some handler => exact (passive.handlerFor? found).run ih passive

/-! ## Writing at allowed places -/

/-- Whether a place is one of the outputs of the steps with an id. -/
def IsOutputOf (id : Option String) (key : String) : Prop := ∃ name, key = outputKey id name

namespace Mocks

/-- Whether, from one state of the mocks to another, outputs were written at allowed places and
nothing else happened to the registry and the outputs. -/
structure WritesOnly (allowed : String → Prop) (m m' : Mocks) : Prop where
  handlers : m'.handlers = m.handlers
  keys : m.outputs.keys <+: m'.outputs.keys
  changed : ∀ key, m'.outputs.get? key ≠ m.outputs.get? key → allowed key

variable {allowed : String → Prop}

theorem WritesOnly.refl (m : Mocks) : WritesOnly allowed m m :=
  ⟨rfl, List.prefix_rfl, fun _ ne => absurd rfl ne⟩

theorem WritesOnly.trans {a b c : Mocks} (h : WritesOnly allowed a b) (g : WritesOnly allowed b c) :
    WritesOnly allowed a c := by
  refine ⟨g.handlers.trans h.handlers, h.keys.trans g.keys, fun key ne => ?_⟩
  -- the value changed on the second part of the way, or else on the first
  by_cases same : c.outputs.get? key = b.outputs.get? key
  · exact h.changed key (same ▸ ne)
  · exact g.changed key same

theorem WritesOnly.mono {more : String → Prop} {m m' : Mocks} (h : WritesOnly allowed m m')
    (le : ∀ key, allowed key → more key) : WritesOnly more m m' :=
  ⟨h.handlers, h.keys, fun key ne => le key (h.changed key ne)⟩

theorem SameButNotes.writesOnly {m m' : Mocks} (h : SameButNotes m m') :
    WritesOnly allowed m m' := by
  refine ⟨h.handlers, ?_, fun key ne => ?_⟩
  · rw [h.outputs]
  · rw [h.outputs] at ne
    exact absurd rfl ne

/-- Recording an output of a step writes at a place of that step. -/
theorem writesOnly_record (m : Mocks) (id : Option String) (output : String × String) :
    WritesOnly (IsOutputOf id) m (m.record id output) := by
  refine ⟨rfl, Table.keys_prefix_set _ _ _, fun key ne => ⟨output.1, ?_⟩⟩
  by_contra other
  exact ne (Table.get?_set_of_ne m.outputs other output.2)

/-- Taking a command of a step does so too, or writes nothing. -/
theorem writesOnly_handle {execute : Executor} (leaves : LeavesAlone execute) (dialect : Dialect)
    (id : Option String) (command : String) {m : Mocks} (passive : m.AllPassive) :
    WritesOnly (IsOutputOf id) m (m.handle execute dialect id command).2 := by
  cases commandTaken dialect id command with
  | recorded output h =>
      rw [h]
      exact writesOnly_record m id output
  | executed h =>
      rw [h]
      exact (leaves command m passive).writesOnly
  | ignored h =>
      rw [h]
      exact .refl m

/-- So taking commands never changes the registry. -/
theorem handlers_handle {m m' : Mocks} (passive : m.AllPassive) (same : m'.handlers = m.handlers)
    (places : Nat) (dialect : Dialect) (id : Option String) (command : String) :
    (m'.handle (dispatch places) dialect id command).2.handlers = m.handlers := by
  have written := writesOnly_handle (leavesAlone_dispatch places) dialect id command
    (passive.of_handlers_eq same)
  exact written.handlers.trans same

end Mocks

/-! ## Steps and rehearsals -/

/-- Whether an entry is that of a step that was run, has a script, and has an output at a place. -/
def MayWrite (entry : Entry) (key : String) : Prop :=
  entry.2.isSome ∧ entry.1.script?.isSome ∧ IsOutputOf entry.1.id key

section Runs

variable {places : Nat} {inputs : List (String × String)}

/-- Rehearsing a step with a script writes only outputs of that step, also if it fails. -/
theorem writesOnly_rehearseStep (places : Nat) (inputs : List (String × String)) {step : Step}
    {script : String} (hscript : step.script? = some script) {m : Mocks} (passive : m.AllPassive) :
    WritesOnly (IsOutputOf step.id) m (rehearseStep places inputs step m).2 := by
  have leaves := leavesAlone_dispatch (places - 2)
  obtain ⟨given, ne⟩ := Step.script?_eq_some_iff.1 hscript
  obtain ⟨outcome, run, result⟩ :=
    commandsRun_rehearseStep (dispatch (places - 2)) inputs given ne m
  have written : WritesOnly (IsOutputOf step.id) m outcome.2 := by
    refine run.keeps (fun command s kept => ?_) (.refl m)
    exact kept.trans (writesOnly_handle leaves _ _ _ (passive.of_handlers_eq kept.handlers))
  rw [rehearseStep, result]
  obtain ⟨reply, left⟩ := outcome
  cases reply with
  | ok => exact written
  | error fault => exact written

theorem StepRun.writesOnly {step : Step} {m m' : Mocks} {result : Option StepResult}
    (h : StepRun places inputs step m result m') (passive : m.AllPassive) :
    WritesOnly (MayWrite (step, result)) m m' := by
  cases h with
  | skipped guard => exact .refl m
  | rehearsed guard =>
      cases hscript : step.script? with
      | none =>
          have nothing : rehearseStep places inputs step m = (.passed none, m) := by
            simp [rehearseStep, rehearseStepWith, hscript]
          rw [nothing]
          exact .refl m
      | some script =>
          refine (writesOnly_rehearseStep places inputs hscript passive).mono fun key own => ?_
          exact ⟨rfl, by rw [hscript]; rfl, own⟩

/-- A run of steps writes only what the steps with a result may write. -/
theorem StepsRun.writesOnly {steps : List Step} {m m' : Mocks} {entries : List Entry}
    (h : StepsRun places inputs steps m entries m') (passive : m.AllPassive) :
    WritesOnly (fun key => ∃ entry ∈ entries, MayWrite entry key) m m' := by
  induction h with
  | done m => exact .refl m
  | stop taken failed =>
      exact (taken.writesOnly passive).mono fun key own => ⟨_, List.mem_singleton_self _, own⟩
  | next taken passed run ih =>
      have first := taken.writesOnly passive
      have others := ih (passive.of_handlers_eq first.handlers)
      refine (first.mono fun key own => ?_).trans (others.mono fun key own => ?_)
      · exact ⟨_, List.mem_cons_self, own⟩
      · obtain ⟨entry, mem, own⟩ := own
        exact ⟨entry, List.mem_cons_of_mem _ mem, own⟩

end Runs

/-- **A rehearsal writes only outputs of the steps that it runs.** With handlers that leave the
mocks alone, whether all steps are reached or one fails on the way, the registry stays as it is, no
place of an output is lost and those that were there keep their order; and a value that is new or
changed stands at the place of an output of a step that has a result, so is neither skipped nor
after a failed one, and whose script is not empty. -/
theorem rehearse_writes (inputs : List (String × String)) (steps : List Step) {m : Mocks}
    (passive : m.AllPassive) :
    let entries := (rehearse inputs steps m).1
    let m' := (rehearse inputs steps m).2
    m'.handlers = m.handlers ∧ m.outputs.keys <+: m'.outputs.keys ∧
      ∀ key, m'.outputs.get? key ≠ m.outputs.get? key →
        ∃ step result script name, (step, some result) ∈ entries ∧
          step.run = some script ∧ script ≠ "" ∧
          key = "steps." ++ step.id.getD "None" ++ ".outputs." ++ name := by
  intro entries m'
  have run : StepsRun (allPlaces - 1) inputs steps m entries m' := stepsRun_rehearseSteps steps m
  have written := run.writesOnly passive
  refine ⟨written.handlers, written.keys, fun key ne => ?_⟩
  obtain ⟨⟨step, taken⟩, mem, hresult, hscript, name, hkey⟩ := written.changed key ne
  obtain ⟨result, rfl⟩ := Option.isSome_iff_exists.1 hresult
  obtain ⟨script, hscript⟩ := Option.isSome_iff_exists.1 hscript
  obtain ⟨given, ne⟩ := Step.script?_eq_some_iff.1 hscript
  exact ⟨step, result, script, name, mem, given, ne, hkey⟩

/-- Four steps, of which the second is skipped, the third fails and the last is not reached. -/
def surveySteps : List Step := [
  { id := some "a", run := some "echo \"x=1\" >> $GITHUB_OUTPUT" },
  { id := some "b", condition := some "steps.a.outputs.x == '0'",
    run := some "echo \"x=2\" >> $GITHUB_OUTPUT" },
  { run := some "echo \"y=3\" >> $GITHUB_OUTPUT\nlook\nfalse" },
  { id := some "c", run := some "echo \"x=4\" >> $GITHUB_OUTPUT" }]

/-- Mocks with two outputs and with a handler that looks at them. -/
def surveyMocks : Mocks where
  handlers := .ofList [("look", .listOutputs fun _ => .note "looked" (.finish (.ok .null)))]
  outputs := .ofList [("kept", "0"), ("steps.a.outputs.x", "0")]

theorem rehearse_writes_survey :
    surveyMocks.AllPassive ∧
      (rehearse [] surveySteps surveyMocks).2.outputs.entries =
        [("kept", "0"), ("steps.a.outputs.x", "1"), ("steps.None.outputs.y", "3")] ∧
      ∃ step result script name, (step, some result) ∈ (rehearse [] surveySteps surveyMocks).1 ∧
        step.run = some script ∧ script ≠ "" ∧
        "steps.None.outputs.y" = "steps." ++ step.id.getD "None" ++ ".outputs." ++ name := by
  have passive : surveyMocks.AllPassive := by
    intro entry mem
    obtain rfl := List.mem_singleton.1 mem
    exact .listOutputs fun outputs => .note (.finish _)
  have left : (rehearse [] surveySteps surveyMocks).2.outputs.entries =
      [("kept", "0"), ("steps.a.outputs.x", "1"), ("steps.None.outputs.y", "3")] := by
    decide +kernel
  obtain ⟨-, -, changed⟩ := rehearse_writes [] surveySteps passive
  refine ⟨passive, left, changed "steps.None.outputs.y" ?_⟩
  rw [Table.get?, Entries.get?, left]
  decide +kernel

end ActionRehearsal
