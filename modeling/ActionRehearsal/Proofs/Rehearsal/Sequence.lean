import ActionRehearsal.Rehearsal.Run

/-!
# Rehearsals in sequence

`StepRun` says what may become of one step, and `StepsRun` how the steps of a rehearsal follow each
other: up to the first failure, the mocks after one step are those before the next. What `rehearseSteps`
computes is a run (`stepsRun_rehearseSteps`), and there is no other one (`StepsRun.rehearseSteps_eq`),
so facts about a rehearsal are proved by induction on its run.

The main statement is `rehearse_append`: the entries of a rehearsal pair the first steps in order,
only the last of them can be a failure, and a rehearsal of two lists of steps is the rehearsal of
the first followed by that of the second on the mocks it leaves, unless the first one failed.
-/

set_option autoImplicit false

namespace ActionRehearsal

/-- Whether an entry is that of a failed step. -/
def isFailed (entry : Entry) : Bool := entry.2.any StepResult.isFailure

/-- What becomes of one step: it is skipped if its guard does not hold, and else rehearsed. -/
inductive StepRun (places : Nat) (inputs : List (String × String)) (step : Step) (m : Mocks) :
    Option StepResult → Mocks → Prop where
  | skipped (guard : guardHolds step.condition m.outputs = false) :
      StepRun places inputs step m none m
  | rehearsed (guard : guardHolds step.condition m.outputs = true) :
      StepRun places inputs step m (some (rehearseStep places inputs step m).1)
        (rehearseStep places inputs step m).2

/-- A rehearsal of steps: each is taken with the mocks that the one before it left, and a failed
one is the last. -/
inductive StepsRun (places : Nat) (inputs : List (String × String)) :
    List Step → Mocks → List Entry → Mocks → Prop where
  | done (m : Mocks) : StepsRun places inputs [] m [] m
  | stop {step : Step} {rest : List Step} {m m' : Mocks} {result : Option StepResult}
      (taken : StepRun places inputs step m result m') (failed : isFailed (step, result) = true) :
      StepsRun places inputs (step :: rest) m [(step, result)] m'
  | next {step : Step} {rest : List Step} {m m₁ m' : Mocks} {result : Option StepResult}
      {entries : List Entry} (taken : StepRun places inputs step m result m₁)
      (passed : isFailed (step, result) = false) (run : StepsRun places inputs rest m₁ entries m') :
      StepsRun places inputs (step :: rest) m ((step, result) :: entries) m'

section Runs

variable {places : Nat} {inputs : List (String × String)}

/-! ## One step -/

theorem StepRun.eq_none_iff {step : Step} {m m' : Mocks} {result : Option StepResult}
    (h : StepRun places inputs step m result m') :
    result = none ↔ guardHolds step.condition m.outputs = false := by
  cases h with
  | skipped guard => simp [guard]
  | rehearsed guard => simp [guard]

/-- A skipped step leaves the mocks as they are. -/
theorem StepRun.eq_of_eq_none {step : Step} {m m' : Mocks} {result : Option StepResult}
    (h : StepRun places inputs step m result m') (skip : result = none) : m' = m := by
  cases h with
  | skipped guard => rfl
  | rehearsed guard => cases skip

/-! ## The function computes the relation -/

theorem stepsRun_rehearseSteps (steps : List Step) (m : Mocks) :
    StepsRun places inputs steps m (rehearseSteps places inputs steps m).1
      (rehearseSteps places inputs steps m).2 := by
  induction steps generalizing m with
  | nil => exact .done m
  | cons step rest ih =>
      cases guard : guardHolds step.condition m.outputs with
      | false =>
          simp only [rehearseSteps, guard, Bool.false_eq_true, if_false]
          exact .next (.skipped guard) rfl (ih m)
      | true =>
          -- the result of the step decides whether the run goes on, so it is taken apart
          have taken : StepRun places inputs step m _ _ := .rehearsed guard
          simp only [rehearseSteps, guard, if_true]
          generalize rehearseStep places inputs step m = outcome at taken
          obtain ⟨result, m₁⟩ := outcome
          cases result with
          | passed outputs => exact .next taken rfl (ih m₁)
          | failed error => exact .stop taken rfl

theorem StepsRun.rehearseSteps_eq {steps : List Step} {m m' : Mocks} {entries : List Entry}
    (h : StepsRun places inputs steps m entries m') :
    rehearseSteps places inputs steps m = (entries, m') := by
  induction h with
  | done m => rfl
  | stop taken failed =>
      cases taken with
      | skipped guard => cases failed
      | rehearsed guard =>
          rename_i step rest m
          simp only [rehearseSteps, guard, if_true]
          generalize rehearseStep places inputs step m = outcome at failed
          obtain ⟨result, m₁⟩ := outcome
          cases result with
          | passed outputs => cases failed
          | failed error => rfl
  | next taken passed run ih =>
      cases taken with
      | skipped guard => simp only [rehearseSteps, guard, Bool.false_eq_true, if_false, ih]
      | rehearsed guard =>
          rename_i step rest m m' entries
          simp only [rehearseSteps, guard, if_true]
          generalize rehearseStep places inputs step m = outcome at passed ih
          obtain ⟨result, m₁⟩ := outcome
          cases result with
          | passed outputs => simp only [ih]
          | failed error => cases passed

/-! ## The shape of a run -/

/-- The entries of a run pair the first steps, in order. -/
theorem StepsRun.pairs_steps {steps : List Step} {m m' : Mocks} {entries : List Entry}
    (h : StepsRun places inputs steps m entries m') : entries.map (·.1) <+: steps := by
  induction h with
  | done m => exact List.nil_prefix
  | stop taken failed => exact List.prefix_append [_] _
  | next taken passed run ih => exact List.cons_prefix_cons.2 ⟨rfl, ih⟩

/-- No entry before the last one is a failure. -/
theorem StepsRun.dropLast_passed {steps : List Step} {m m' : Mocks} {entries : List Entry}
    (h : StepsRun places inputs steps m entries m') :
    ∀ entry ∈ entries.dropLast, isFailed entry = false := by
  induction h with
  | done m => simp
  | stop taken failed => simp
  | next taken passed run ih =>
      intro entry hentry
      rename_i entries
      cases entries with
      | nil => simp at hentry
      | cons second entries =>
          rw [List.dropLast_cons_cons, List.mem_cons] at hentry
          rcases hentry with rfl | hentry
          · exact passed
          · exact ih entry hentry

/-- A run that does not reach all steps ends with a failure. -/
theorem StepsRun.last_failed {steps : List Step} {m m' : Mocks} {entries : List Entry}
    (h : StepsRun places inputs steps m entries m') (short : entries.length < steps.length) :
    ∃ entry, entries.getLast? = some entry ∧ isFailed entry = true := by
  induction h with
  | done m => simp at short
  | stop taken failed => exact ⟨_, rfl, failed⟩
  | next taken passed run ih =>
      obtain ⟨entry, last, failed⟩ := ih (by simpa using short)
      refine ⟨entry, ?_, failed⟩
      rw [List.getLast?_cons, last]
      rfl

/-! ## Runs one after the other -/

/-- A run with a failure is a run of any longer list of steps. -/
theorem StepsRun.append_of_failed {steps : List Step} {m m' : Mocks} {entries : List Entry}
    (h : StepsRun places inputs steps m entries m') (failed : entries.any isFailed = true)
    (more : List Step) : StepsRun places inputs (steps ++ more) m entries m' := by
  induction h with
  | done m => cases failed
  | stop taken failedHere => exact .stop taken failedHere
  | next taken passed run ih =>
      rw [List.any_cons, passed, Bool.false_or] at failed
      exact .next taken passed (ih failed)

/-- After a run without a failure, the run of further steps goes on from its mocks. -/
theorem StepsRun.append {steps more : List Step} {m m₁ m' : Mocks} {entries after : List Entry}
    (h : StepsRun places inputs steps m entries m₁) (passed : entries.any isFailed = false)
    (g : StepsRun places inputs more m₁ after m') :
    StepsRun places inputs (steps ++ more) m (entries ++ after) m' := by
  induction h with
  | done m => exact g
  | stop taken failed =>
      rw [List.any_cons, failed] at passed
      cases passed
  | next taken passedHere run ih =>
      rw [List.any_cons, passedHere, Bool.false_or] at passed
      exact .next taken passedHere (ih passed g)

/-- The entry at a place of a run comes from the mocks that the steps before it leave. -/
theorem StepsRun.at_place {steps : List Step} {m m' : Mocks} {entries : List Entry}
    (h : StepsRun places inputs steps m entries m') {i : Nat} (hi : i < entries.length) :
    ∃ before after, StepsRun places inputs (steps.take i) m (entries.take i) before ∧
      StepRun places inputs entries[i].1 before entries[i].2 after ∧
      StepsRun places inputs (steps.take (i + 1)) m (entries.take (i + 1)) after := by
  induction h generalizing i with
  | done m => cases hi
  | stop taken failed =>
      rename_i m m' result
      obtain rfl : i = 0 := by simpa using hi
      exact ⟨m, m', .done m, taken, .stop taken failed⟩
  | next taken passed run ih =>
      rename_i m m₁ m' result entries
      cases i with
      -- the run up to the first step is that step alone, whatever follows it
      | zero => exact ⟨m, m₁, .done m, taken, .next taken passed (.done m₁)⟩
      | succ i =>
          obtain ⟨before, after, first, here, next⟩ := ih (by simpa using hi)
          exact ⟨before, after, .next taken passed first, here, .next taken passed next⟩

/-- An entry of a run comes from its step, with the mocks that the steps before it leave. -/
theorem StepsRun.split_at_entry {steps : List Step} {m m' : Mocks} {entries : List Entry}
    (h : StepsRun places inputs steps m entries m') {step : Step} {result : Option StepResult}
    (mem : (step, result) ∈ entries) :
    ∃ first rest passed before after, steps = first ++ step :: rest ∧
      StepsRun places inputs first m passed before ∧
      StepRun places inputs step before result after := by
  induction h with
  | done m => cases mem
  | @stop head rest m m' result taken failed =>
      obtain ⟨rfl, rfl⟩ := Prod.mk.inj (List.mem_singleton.1 mem)
      exact ⟨[], rest, [], m, m', rfl, .done m, taken⟩
  | @next head rest m m₁ m' result entries taken passed run ih =>
      rcases List.mem_cons.1 mem with here | later
      · obtain ⟨rfl, rfl⟩ := Prod.mk.inj here
        exact ⟨[], rest, [], m, m₁, rfl, .done m, taken⟩
      · obtain ⟨first, rest, before, after, hbefore, rfl, earlier, here⟩ := ih later
        exact ⟨head :: first, rest, _, _, _, rfl, .next taken passed earlier, here⟩

end Runs

/-! ## Rehearsals -/

/-- **Rehearsals compose.** The entries of a rehearsal pair its first steps, in order; a failure
can only be the last of them, and it is if a step is missing. More steps change nothing after a
failure, and else they are rehearsed with the mocks that the first ones left. A step has no result
exactly if its guard does not hold for the outputs recorded when it is reached, and then it leaves
the mocks as they are. -/
theorem rehearse_append (inputs : List (String × String)) (steps more : List Step) (m : Mocks) :
    let entries := (rehearse inputs steps m).1
    let m' := (rehearse inputs steps m).2
    entries.map (·.1) <+: steps ∧
      (∀ entry ∈ entries.dropLast, isFailed entry = false) ∧
      (entries.length < steps.length →
        ∃ entry, entries.getLast? = some entry ∧ isFailed entry = true) ∧
      (entries.any isFailed = true → rehearse inputs (steps ++ more) m = (entries, m')) ∧
      (entries.any isFailed = false →
        rehearse inputs (steps ++ more) m =
          (entries ++ (rehearse inputs more m').1, (rehearse inputs more m').2)) ∧
      ∀ (i : Nat) (hi : i < entries.length),
        let reached := (rehearse inputs (steps.take i) m).2
        (entries[i].2 = none ↔ guardHolds entries[i].1.condition reached.outputs = false) ∧
          (entries[i].2 = none → (rehearse inputs (steps.take (i + 1)) m).2 = reached) := by
  intro entries m'
  have run : StepsRun (Mocks.allPlaces - 1) inputs steps m entries m' :=
    stepsRun_rehearseSteps steps m
  refine ⟨run.pairs_steps, run.dropLast_passed, run.last_failed, ?_, ?_, ?_⟩
  · intro failed
    exact (run.append_of_failed failed more).rehearseSteps_eq
  · intro passed
    exact (run.append passed (stepsRun_rehearseSteps more m')).rehearseSteps_eq
  · intro i hi reached
    -- the mocks before and after the entry are those that shorter rehearsals end with
    obtain ⟨before, after, first, here, next⟩ := run.at_place hi
    have hbefore : reached = before := congrArg Prod.snd first.rehearseSteps_eq
    have hafter : (rehearse inputs (steps.take (i + 1)) m).2 = after :=
      congrArg Prod.snd next.rehearseSteps_eq
    rw [hbefore, hafter]
    exact ⟨here.eq_none_iff, here.eq_of_eq_none⟩

end ActionRehearsal
