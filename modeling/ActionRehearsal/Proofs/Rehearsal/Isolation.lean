import ActionRehearsal.Proofs.Rehearsal.Frame
import ActionRehearsal.Proofs.Text.Search
import Mathlib.Tactic.MkIffOfInductiveProp

/-!
# Steps do not see each other

The outputs that a step reports are picked from those of the whole rehearsal by the start of their
places. If no id of a step is the start of another one (`SeparateIds`), these are its own outputs,
and the main statement, `rehearse_isolated`, is that a step has the same result as if it were
rehearsed alone.

The proof runs the step twice, after the steps before it and alone, with mocks that agree on the
registry and on the outputs of this step (`Mocks.AgreeOn`). At the start they do, since the outputs
recorded before are those of other steps; and every command keeps it so, since it writes an output
of this step in both or in neither.
-/

set_option autoImplicit false

namespace ActionRehearsal

open ActionRehearsal.Text Mocks

/-! ## Handlers with a fixed reply -/

/-- The reply of a handler that only gives a reply, notes apart. -/
def Handler.fixedReply? : Handler → Option Reply
  | .finish reply => some reply
  | .note _ next => next.fixedReply?
  | _ => none

/-- Such a handler gives that reply, leaves the mocks alone, and does not look at them. -/
theorem Handler.run_of_fixedReply? {handler : Handler} {reply : Reply}
    (h : handler.fixedReply? = some reply) (dispatch : Executor) (m : Mocks) :
    handler.Passive ∧ (handler.run dispatch m).1 = reply := by
  induction handler generalizing m with
  | finish given =>
      obtain rfl := Option.some.inj h
      exact ⟨.finish given, rfl⟩
  | note text next ih =>
      obtain ⟨passive, same⟩ := ih h (m.note text)
      exact ⟨.note passive, same⟩
  | _ => cases h

namespace Mocks

/-- Whether all registered handlers have a fixed reply. -/
abbrev AllFixed (m : Mocks) : Prop := m.AllHandlers fun handler => handler.fixedReply?.isSome

instance (m : Mocks) : Decidable m.AllFixed :=
  inferInstanceAs (Decidable (∀ entry ∈ m.handlers.entries, entry.2.fixedReply?.isSome))

theorem AllFixed.allPassive {m : Mocks} (h : m.AllFixed) : m.AllPassive := by
  intro entry mem
  obtain ⟨reply, fixed⟩ := Option.isSome_iff_exists.1 (h entry mem)
  exact (Handler.run_of_fixedReply? fixed (dispatch 0) m).1

/-- With fixed replies, what a command gives depends on the registry alone, and not on the places
left, if there are places for the dispatch and its handler. -/
theorem AllFixed.dispatch_eq {m m' : Mocks} (h : m.AllFixed) (same : m'.handlers = m.handlers)
    (places places' : Nat) (command : String) :
    (dispatch (places' + 2) command m').1 = (dispatch (places + 2) command m).1 := by
  have hfound : m'.handlerFor? command = m.handlerFor? command := by
    rw [handlerFor?, handlerFor?, same]
  rw [dispatch, dispatch, hfound]
  cases found : m.handlerFor? command with
  | none => rfl
  | some handler =>
      obtain ⟨reply, fixed⟩ := Option.isSome_iff_exists.1 (h.handlerFor? found)
      have here := (Handler.run_of_fixedReply? fixed (dispatch places) m).2
      have there := (Handler.run_of_fixedReply? fixed (dispatch places') m').2
      exact there.trans here.symm

/-! ## Mocks that a step cannot tell apart -/

/-- Whether two mocks have the same registry, of handlers with fixed replies, and the same outputs
of a step, in the same order. -/
structure AgreeOn (id : Option String) (m m' : Mocks) : Prop where
  fixed : m.AllFixed
  handlers : m'.handlers = m.handlers
  outputs : m'.outputsOf id = m.outputsOf id

theorem prefix_outputKey (id : Option String) (name : String) :
    (outputKeyStart id).toList <+: (outputKey id name).toList := by
  simp only [outputKey, outputKeyStart, String.toList_append, List.append_assoc]
  exact ⟨".outputs.".toList ++ name.toList, List.append_assoc _ _ _⟩

theorem outputsOf_record (m : Mocks) (id : Option String) (output : String × String) :
    (m.record id output).outputsOf id =
      (m.outputsOf id).set (outputKey id output.1) output.2 :=
  Table.filter_set m.outputs (List.isPrefixOf_iff_prefix.2 (prefix_outputKey id output.1)) _

theorem AgreeOn.record {id : Option String} {m m' : Mocks} (h : AgreeOn id m m')
    (output : String × String) : AgreeOn id (m.record id output) (m'.record id output) := by
  refine ⟨h.fixed, h.handlers, ?_⟩
  rw [outputsOf_record, outputsOf_record, h.outputs]

theorem AgreeOn.of_sameButNotes {id : Option String} {m m' n n' : Mocks} (h : AgreeOn id m m')
    (left : SameButNotes m n) (right : SameButNotes m' n') : AgreeOn id n n' := by
  refine ⟨h.fixed.of_handlers_eq left.handlers, ?_, ?_⟩
  · rw [right.handlers, h.handlers, left.handlers]
  · have outputs := h.outputs
    rwa [outputsOf, outputsOf, ← left.outputs, ← right.outputs] at outputs

/-- A command of the step gets the same reply from both, and they still agree. -/
theorem AgreeOn.handle {id : Option String} {m m' : Mocks} (h : AgreeOn id m m')
    (places places' : Nat) (dialect : Dialect) (command : String) :
    (m'.handle (dispatch (places' + 2)) dialect id command).1 =
        (m.handle (dispatch (places + 2)) dialect id command).1 ∧
      AgreeOn id (m.handle (dispatch (places + 2)) dialect id command).2
        (m'.handle (dispatch (places' + 2)) dialect id command).2 := by
  cases commandTaken dialect id command with
  | recorded output taken =>
      rw [taken, taken]
      exact ⟨rfl, h.record output⟩
  | executed taken =>
      have leaves := leavesAlone_dispatch (places + 2) command m h.fixed.allPassive
      have fixed' : m'.AllFixed := h.fixed.of_handlers_eq h.handlers
      have leaves' := leavesAlone_dispatch (places' + 2) command m' fixed'.allPassive
      rw [taken, taken, h.fixed.dispatch_eq h.handlers places places' command]
      exact ⟨rfl, h.of_sameButNotes leaves leaves'⟩
  | ignored taken =>
      rw [taken, taken]
      exact ⟨rfl, h⟩

end Mocks

/-- So rehearsing the step gives the same result with both. -/
theorem rehearseStep_eq_of_agreeOn (places places' : Nat) (inputs : List (String × String))
    {step : Step} {m m' : Mocks} (h : AgreeOn step.id m m') :
    (rehearseStep (places' + 4) inputs step m').1 =
      (rehearseStep (places + 4) inputs step m).1 := by
  cases hscript : step.script? with
  | none => simp [rehearseStep, rehearseStepWith, hscript]
  | some script =>
      obtain ⟨given, ne⟩ := Step.script?_eq_some_iff.1 hscript
      obtain ⟨⟨reply, left⟩, run, result⟩ :=
        commandsRun_rehearseStep (dispatch (places + 2)) inputs given ne m
      obtain ⟨⟨reply', left'⟩, run', result'⟩ :=
        commandsRun_rehearseStep (dispatch (places' + 2)) inputs given ne m'
      obtain ⟨replies, agree⟩ :=
        run.alike (fun command s s' agree => agree.handle places places' _ command) run' h
      obtain rfl : reply' = reply := replies
      have hplaces : ∀ places m, rehearseStep (places + 4) inputs step m =
          rehearseStepWith (dispatch (places + 2)) inputs step m := fun _ _ => rfl
      rw [hplaces, hplaces, result, result']
      cases reply' with
      | ok => simp only [agree.outputs]
      | error fault => rfl

/-! ## Steps with separate ids -/

/-- The id of a step as it stands in the places of its outputs. -/
def Step.idText (step : Step) : List Char := (step.id.getD "None").toList

/-- Whether no id of a step holds a dot and none is the start of the id of another step. -/
@[mk_iff]
structure SeparateIds (steps : List Step) : Prop where
  no_dot : ∀ step ∈ steps, '.' ∉ step.idText
  apart : steps.Pairwise fun a b => ¬a.idText <+: b.idText ∧ ¬b.idText <+: a.idText

instance (steps : List Step) : Decidable (SeparateIds steps) :=
  decidable_of_iff _ (separateIds_iff steps).symm

/-- An id without a dot with which the place of an output goes on is the start of the id there. -/
theorem idText_prefix_of_outputKey {step : Step} {id : Option String} {name : String}
    (no_dot : '.' ∉ step.idText)
    (h : (outputKeyStart step.id).toList <+: (outputKey id name).toList) :
    step.idText <+: (id.getD "None").toList := by
  have hdot : ".outputs.".toList = '.' :: "outputs.".toList := by decide +kernel
  simp only [outputKey, outputKeyStart, String.toList_append, List.append_assoc, hdot,
    List.prefix_append_right_inj, List.cons_append] at h
  exact prefix_of_prefix_append_cons no_dot h

section Runs

variable {places : Nat} {inputs : List (String × String)}

/-- Before a step of a run that starts without outputs, none is recorded that starts as those of the
step do. -/
theorem StepsRun.outputsOf_eq_empty {steps : List Step} {m before : Mocks} {entries : List Entry}
    (h : StepsRun places inputs steps m entries before) (fixed : m.AllFixed)
    (fresh : m.outputs = {}) {step : Step} (no_dot : '.' ∉ step.idText)
    (apart : ∀ other ∈ steps, ¬step.idText <+: other.idText) : before.outputsOf step.id = {} := by
  refine Table.filter_eq_empty fun key mem => ?_
  -- a recorded place is that of an output of a step taken before
  have recorded : before.outputs.get? key ≠ m.outputs.get? key := by
    rw [fresh]
    exact fun none => absurd mem (Table.get?_eq_none_iff.1 none)
  obtain ⟨entry, hentry, -, -, name, rfl⟩ := (h.writesOnly fixed.allPassive).changed key recorded
  have hstep : entry.1 ∈ steps := h.pairs_steps.mem (List.mem_map_of_mem hentry)
  rw [Bool.eq_false_iff, ne_eq, List.isPrefixOf_iff_prefix]
  exact fun starts => apart entry.1 hstep (idText_prefix_of_outputKey no_dot starts)

end Runs

/-- **Steps do not see each other.** If no id of a step holds a dot or is the start of another one,
no outputs are recorded at the start, and the handlers have fixed replies, then every step of a
rehearsal that has a result has the one that it has when it is rehearsed alone, with the same
inputs, on mocks that know the same handlers and no outputs. -/
theorem rehearse_isolated (inputs : List (String × String)) {steps : List Step} {m : Mocks}
    (ids : SeparateIds steps) (fresh : m.outputs = {}) (fixed : m.AllFixed) :
    ∀ step result, (step, some result) ∈ (rehearse inputs steps m).1 →
      result = (rehearseStep allPlaces inputs step { handlers := m.handlers }).1 := by
  intro step result mem
  have run : StepsRun (allPlaces - 1) inputs steps m _ _ := stepsRun_rehearseSteps steps m
  obtain ⟨first, rest, passed, before, after, rfl, earlier, taken⟩ := run.split_at_entry mem
  have no_dot : '.' ∉ step.idText := ids.no_dot step (List.mem_append_right _ List.mem_cons_self)
  have apart : ∀ other ∈ first, ¬step.idText <+: other.idText := fun other hother =>
    ((List.pairwise_append.1 ids.apart).2.2 other hother step List.mem_cons_self).2
  -- so before the step the mocks agree with those that it has alone
  have agree : AgreeOn step.id { handlers := m.handlers } before := by
    refine ⟨fixed, (earlier.writesOnly fixed.allPassive).handlers, ?_⟩
    rw [earlier.outputsOf_eq_empty fixed fresh no_dot apart]
    rfl
  -- alone the step has 993 places for nested calls, and one less in a rehearsal
  cases taken with
  | rehearsed guard => exact rehearseStep_eq_of_agreeOn 989 988 inputs agree

/-- Three steps, of which the second is under PowerShell and the third has no id and fails. -/
def crewSteps : List Step := [
  { id := some "a", run := some "echo \"x=1\" >> $GITHUB_OUTPUT\nbuild" },
  { id := some "b", shell := some "powershell",
    run := some "try \x7b\necho \"x=2\" >> $env:GITHUB_OUTPUT" },
  { run := some "echo \"x=3\" >> $GITHUB_OUTPUT\ndeploy" }]

/-- Mocks with a handler that replies and one that fails. -/
def crewMocks : Mocks where
  handlers := .ofList [("build", .note "built" (.finish (.ok .null))),
    ("deploy", .finish (.error (.plain .runtime (some "no target"))))]

theorem rehearse_isolated_crew :
    SeparateIds crewSteps ∧ crewMocks.outputs = {} ∧ crewMocks.AllFixed ∧
      (rehearse [] crewSteps crewMocks).1.length = 3 ∧
      ∀ step result, (step, some result) ∈ (rehearse [] crewSteps crewMocks).1 →
        result = (rehearseStep allPlaces [] step { handlers := crewMocks.handlers }).1 := by
  have ids : SeparateIds crewSteps := by decide +kernel
  have fresh : crewMocks.outputs = {} := rfl
  have fixed : crewMocks.AllFixed := by decide +kernel
  have all : (rehearse [] crewSteps crewMocks).1.length = 3 := by decide +kernel
  exact ⟨ids, fresh, fixed, all, rehearse_isolated [] ids fresh fixed⟩

end ActionRehearsal
