import ActionRehearsal.CommandLine.Run
import ActionRehearsal.Proofs.CommandLine.Outcome
import ActionRehearsal.Proofs.CommandLine.Writing
import ActionRehearsal.Proofs.Rehearsal.Sequence
import ActionRehearsal.Proofs.Table
import ActionRehearsal.Proofs.Text.Search

/-!
# The table of results

A run of the program rehearses an action if its arguments ask for that, the action is read, the inputs
are pairs and none that is required is missing (`Rehearses`). Then `Rehearses.run_eq` says what the run
leaves behind; later statements about such runs start from there.

The rows of the table are kept by their text, a number and the label of a step. No two rows have the
same text, whatever the labels, for a number holds no dot (`rowText_inj`). So the table keeps all rows
(`entries_summary`). What a report writes of an action and its rehearsal are a few texts of each entry
(`writes_rehearsalReport_iff`), and the main statement, `runIn_rehearses_results`, ties the table to the
entries of the rehearsal and, if these texts can be written, to the exit status.
-/

set_option autoImplicit false

namespace ActionRehearsal.CommandLine

open ActionRehearsal.Files ActionRehearsal.Text

/-! ## Runs that rehearse an action -/

/-- Whether a run with these arguments rehearses an action with these inputs: the arguments are
understood as a request for it, the action is read, what is given as inputs are pairs, and no required
input is missing. -/
structure Rehearses [Platform] (world : Surroundings) (settings : Settings) (arguments : List String)
    (debug : Bool) (options : SimulateOptions) (a : Action) (inputs : Table String String) : Prop where
  understood : Arguments.read settings arguments = .ok ⟨debug, .simulate options⟩
  accepted : ((Library.empty none).action world settings options.action).1.map (·.content) = .ok a
  paired : (inputPairs options.inputs).map (effectiveInputs a) = .ok inputs
  supplied : a.missingInputs (asValues inputs) = []

section Runs

variable [Platform] {world : Surroundings} {settings : Settings} {arguments : List String} {debug : Bool}
  {options : SimulateOptions} {a : Action} {inputs : Table String String}

/-- A run that is asked to rehearse an action, and can read it, does what rehearsing it does. -/
theorem run_of_accepted (understood : Arguments.read settings arguments = .ok ⟨debug, .simulate options⟩)
    (accepted : ((Library.empty none).action world settings options.action).1.map (·.content) = .ok a) :
    run world settings arguments = simulateAction ⟨debug⟩ options a := by
  simp only [run, understood, perform, simulate]
  cases read : ((Library.empty none).action world settings options.action).1 with
  | error fault =>
      rw [read] at accepted
      cases accepted
  | ok numbered =>
      rw [read] at accepted
      obtain rfl : numbered.content = a := Except.ok.inj accepted
      rfl

/-- What such a run leaves behind: a report of the rehearsal, and whether a step failed. -/
theorem Rehearses.run_eq (h : Rehearses world settings arguments debug options a inputs) :
    run world settings arguments =
      .done (rehearsalReport ⟨debug⟩ (rehearsed options a inputs).1 (rehearsed options a inputs).2.notes)
        (hasFailure (rehearsed options a inputs).1) := by
  obtain ⟨understood, accepted, paired, supplied⟩ := h
  have no_problems : (a.inputProblems (asValues inputs)).isEmpty = true := by
    rw [Action.inputProblems, supplied]
    rfl
  rw [run_of_accepted understood accepted]
  cases pairs : inputPairs options.inputs with
  | error fault =>
      rw [pairs] at paired
      cases paired
  | ok pairs' =>
      rw [pairs] at paired
      obtain rfl : effectiveInputs a pairs' = inputs := Except.ok.inj paired
      simp only [simulateAction, pairs, no_problems, if_true]

end Runs

/-! ## Rows -/

/-- The text of a row: its number and the label of a step. -/
def rowText (number : Nat) (label : String) : String := toString number ++ ". " ++ label

theorem toList_rowText (number : Nat) (label : String) :
    (rowText number label).toList = Nat.toDigits 10 number ++ '.' :: ' ' :: label.toList := by
  rw [rowText, String.toList_append, String.toList_append, ← Nat.toList_repr, List.append_assoc]
  rfl

/-- A row is known by its text: the number ends at the first dot. -/
theorem rowText_inj {m n : Nat} {label label' : String} (e : rowText m label = rowText n label') :
    m = n ∧ label = label' := by
  have no_dot (k : Nat) : '.' ∉ Nat.toDigits 10 k := by
    intro mem
    have digit : '.'.isDigit = true := Nat.isDigit_of_mem_toDigits (by decide) (by decide) mem
    cases digit
  rw [← String.toList_inj, toList_rowText, toList_rowText] at e
  obtain ⟨digits, rest⟩ := append_cons_inj_of_first (no_dot m) (no_dot n) e
  constructor
  · rw [← Nat.ofDigitChars_ten_toDigits (n := m), digits, Nat.ofDigitChars_ten_toDigits]
  · exact String.toList_inj.1 (List.tail_eq_of_cons_eq rest)

theorem rows_eq_mapIdx (first : Nat) (entries : List Entry) :
    rows first entries =
      entries.mapIdx fun i entry => (rowText (first + i) entry.1.label, statusText entry.2) := by
  induction entries generalizing first with
  | nil => rfl
  | cons entry entries ih =>
      rw [rows, ih, List.mapIdx_cons]
      simp only [Nat.add_zero, Nat.add_assoc, Nat.add_comm 1]
      rfl

/-- The table keeps all rows. -/
theorem entries_summary (entries : List Entry) :
    (summary entries).entries =
      entries.mapIdx fun i entry => (rowText (i + 1) entry.1.label, statusText entry.2) := by
  have distinct : (rows 1 entries).Pairwise fun a b => a.1 ≠ b.1 := by
    rw [rows_eq_mapIdx, List.pairwise_iff_getElem]
    intro i j hi hj lt
    simp only [List.getElem_mapIdx]
    intro same
    have number := (rowText_inj same).1
    omega
  rw [summary, Table.entries_ofList_of_distinct distinct, rows_eq_mapIdx]
  simp only [Nat.add_comm 1]

/-! ## Statuses -/

/-- What is said of a step tells what became of it. -/
theorem statusText_iff {result : Option StepResult} :
    (statusText result = "skipped" ↔ result = none) ∧
      (statusText result = "success" ↔ ∃ outputs, result = some (.passed outputs)) ∧
      (statusText result = "failed" ↔ ∃ error, result = some (.failed error)) := by
  rcases result with _ | outputs | error
  · simp [statusText]
  · simp [statusText]
  · simp [statusText]

theorem isFailed_iff {entry : Entry} : isFailed entry = true ↔ statusText entry.2 = "failed" := by
  rw [statusText_iff.2.2]
  obtain ⟨step, _ | outputs | error⟩ := entry
  · simp [isFailed]
  · simp [isFailed, StepResult.isFailure]
  · simp [isFailed, StepResult.isFailure]

/-- Some step failed exactly if a row says so. -/
theorem hasFailure_iff {entries : List Entry} :
    hasFailure entries = true ↔ ∃ row ∈ (summary entries).entries, row.2 = "failed" := by
  have statuses : (summary entries).entries.map (·.2) = entries.map fun entry => statusText entry.2 := by
    rw [entries_summary]
    refine List.ext_getElem (by simp) fun i _ _ => ?_
    simp only [List.getElem_map, List.getElem_mapIdx]
  calc hasFailure entries = true
      ↔ ∃ entry ∈ entries, isFailed entry = true := List.any_eq_true
    _ ↔ "failed" ∈ entries.map fun entry => statusText entry.2 := by
        simp only [isFailed_iff, List.mem_map]
    _ ↔ ∃ row ∈ (summary entries).entries, row.2 = "failed" := by rw [← statuses, List.mem_map]

/-! ## Writing the report -/

/-- The texts in the report of an entry that come from the action and its rehearsal. -/
def reportTexts (console : Console) : Entry → List String
  | (step, none) => [step.label]
  | (step, some (.passed outputs)) =>
    step.label :: (outputs.getD {}).entries.flatMap fun output => [output.1, output.2]
  | (step, some (.failed error)) =>
    [step.label, if console.debug then error else Console.firstLine error]

section Reports

variable {e : Encoding} {console : Console}

theorem label_mem_reportTexts (entry : Entry) : entry.1.label ∈ reportTexts console entry := by
  obtain ⟨step, _ | outputs | error⟩ := entry
  · exact List.mem_cons_self
  · exact List.mem_cons_self
  · exact List.mem_cons_self

theorem takesAll_toString (h : e.TakesAscii) (n : Nat) : e.takesAll (toString n) = true := by
  refine List.all_eq_true.2 fun c mem => h c ?_
  have digit : c.isDigit = true := by
    refine Nat.isDigit_of_mem_toDigits (b := 10) (n := n) (by decide) (by decide) ?_
    rw [← Nat.toList_repr]
    exact mem
  exact Nat.lt_of_le_of_lt (Char.isDigit_iff_toNat.1 digit).2 (by decide)

theorem takesAll_after (h : e.TakesAscii) {start : String}
    (ascii : (start.toList.all fun c => c.toNat < 0x80) = true) (text : String) :
    e.takesAll (start ++ text) = e.takesAll text := by
  rw [Encoding.takesAll_append, h.takesAll ascii, Bool.true_and]

theorem writes_line (text : String) : e.writes (.line text) = e.takesAll text := by
  rw [Encoding.writes, Printed.line, List.all_cons, List.all_nil, Bool.and_true]
  rfl

theorem writes_success_iff (h : e.TakesAscii) (outputs : List (String × String)) :
    e.writes (Console.success outputs) = true ↔
      ∀ text ∈ outputs.flatMap fun output => [output.1, output.2], e.takesAll text = true := by
  rw [Console.success, Encoding.writes_lines_iff, List.forall_mem_cons, List.forall_mem_map]
  have heading : e.takesAll "STATUS: success" = true := h.takesAll (by decide)
  have spaces : e.takesAll "  " = true := h.takesAll (by decide)
  have equals : e.takesAll " = " = true := h.takesAll (by decide)
  have output_line (output : String × String) :
      e.takesAll ("  " ++ output.1 ++ " = " ++ output.2) =
        (e.takesAll output.1 && e.takesAll output.2) := by
    simp only [Encoding.takesAll_append, spaces, equals, Bool.true_and, Bool.and_true]
  simp only [heading, output_line, Bool.and_eq_true, true_and, List.mem_flatMap, List.mem_cons,
    List.not_mem_nil, or_false]
  constructor
  · rintro all text ⟨output, mem, rfl | rfl⟩
    · exact (all output mem).1
    · exact (all output mem).2
  · intro all output mem
    exact ⟨all _ ⟨output, mem, .inl rfl⟩, all _ ⟨output, mem, .inr rfl⟩⟩

theorem writes_failure (h : e.TakesAscii) (label error : String) :
    e.writes (console.failure label error) =
      (e.takesAll label &&
        e.takesAll (if console.debug then error else Console.firstLine error)) := by
  have lines (first second : String) :
      e.writes (.lines [first, second]) = (e.takesAll first && e.takesAll second) := by
    rw [Encoding.writes, Printed.lines, List.map_cons, List.map_singleton, List.all_cons,
      List.all_cons, List.all_nil, Bool.and_true]
    rfl
  rw [Console.failure, lines, takesAll_after h (by decide)]
  cases console.debug with
  | true => exact congrArg (_ && ·) (takesAll_after h (by decide) error)
  | false =>
      by_cases empty : error = ""
      · subst empty
        have unknown : e.takesAll ("Error: " ++ "Unknown error") = true := h.takesAll (by decide +kernel)
        exact congrArg (_ && ·) unknown
      · simp only [if_neg empty, Bool.false_eq_true, if_false]
        rw [takesAll_after h (by decide)]

/-- The report of an entry can be written exactly if these texts can be. -/
theorem writes_entryReport_iff (h : e.TakesAscii) (entry : Entry) :
    e.writes (entryReport console entry) = true ↔
      ∀ text ∈ reportTexts console entry, e.takesAll text = true := by
  have step_line (label : String) : e.writes (Console.step label) = e.takesAll label := by
    rw [Console.step, writes_line, takesAll_after h (by decide)]
  obtain ⟨step, _ | outputs | error⟩ := entry
  · have skipped : e.takesAll "STATUS: skipped (condition not met)" = true := h.takesAll (by decide +kernel)
    rw [entryReport, Console.skipped, Encoding.writes_append, step_line, writes_line, skipped,
      Bool.and_true, reportTexts, List.forall_mem_singleton]
  · rw [entryReport, Encoding.writes_append, step_line, Bool.and_eq_true, writes_success_iff h,
      reportTexts, List.forall_mem_cons]
  · rw [entryReport, Encoding.writes_append, step_line, writes_failure h, reportTexts,
      List.forall_mem_cons, List.forall_mem_singleton]
    simp only [Bool.and_eq_true]
    tauto

/-- The table can be written if the labels can be: a row adds digits, marks and a status. -/
theorem writes_results (h : e.TakesAscii) {entries : List Entry}
    (labels : ∀ entry ∈ entries, e.takesAll entry.1.label = true) :
    e.writes (Console.results (summary entries).entries) = true := by
  have spaces : e.takesAll "  " = true := h.takesAll (by decide)
  have dot : e.takesAll ". " = true := h.takesAll (by decide)
  have colon : e.takesAll ": " = true := h.takesAll (by decide)
  have skipped : e.takesAll (capitals "skipped") = true := h.takesAll (by decide +kernel)
  have success : e.takesAll (capitals "success") = true := h.takesAll (by decide +kernel)
  have failed : e.takesAll (capitals "failed") = true := h.takesAll (by decide +kernel)
  have status (result : Option StepResult) : e.takesAll (capitals (statusText result)) = true := by
    rcases result with _ | outputs | error
    · exact skipped
    · exact success
    · exact failed
  rw [Console.results, Encoding.writes_lines_iff, List.forall_mem_append, List.forall_mem_map]
  constructor
  · intro text mem
    refine h.takesAll ?_
    have small : ∀ text ∈ ["\n" ++ Console.rule '=' Console.ruleWidth, "RESULTS",
        Console.rule '=' Console.ruleWidth], (text.toList.all fun c => c.toNat < 0x80) = true := by
      decide +kernel
    exact small text mem
  · intro row mem
    rw [entries_summary] at mem
    obtain ⟨i, hi, rfl⟩ := List.mem_mapIdx.1 mem
    have label := labels _ (List.getElem_mem hi)
    simp only [rowText, Encoding.takesAll_append, takesAll_toString h, label, status, spaces, dot,
      colon, Bool.and_self]

/-- The report of a rehearsal can be written exactly if these texts can be for all entries. -/
theorem writes_rehearsalReport_iff (h : e.TakesAscii) {entries : List Entry} {notes : List String} :
    e.writes (rehearsalReport console entries notes) = true ↔
      ∀ entry ∈ entries, ∀ text ∈ reportTexts console entry, e.takesAll text = true := by
  have errors : ∀ note ∈ notes.map console.note, e.writes note = true := by
    intro note mem
    obtain ⟨text, -, rfl⟩ := List.mem_map.1 mem
    rw [Console.note]
    split
    · rfl
    · rfl
  rw [rehearsalReport, Encoding.writes_append, Encoding.writes_append,
    Encoding.writes_concat_iff.2 errors, Bool.true_and, Bool.and_eq_true, Encoding.writes_concat_iff,
    List.forall_mem_map]
  simp only [writes_entryReport_iff h]
  refine and_iff_left_of_imp fun all => writes_results h fun entry mem => ?_
  exact all entry mem _ (label_mem_reportTexts entry)

end Reports

/-! ## The table of a run -/

section Written

variable [Platform] {world : Surroundings} {settings : Settings} {arguments : List String}
  {debug : Bool} {options : SimulateOptions} {a : Action} {inputs : Table String String}
  {encoding : Encoding}

/-- If the report can be written, a rehearsal leaves behind what it would. -/
theorem Rehearses.runIn_of_writes (h : Rehearses world settings arguments debug options a inputs)
    (writes : encoding.writes (rehearsalReport ⟨debug⟩ (rehearsed options a inputs).1
      (rehearsed options a inputs).2.notes) = true) :
    runIn encoding world settings arguments =
      .done ((rehearsalReport ⟨debug⟩ (rehearsed options a inputs).1
        (rehearsed options a inputs).2.notes).map encoding.rewritten)
        (hasFailure (rehearsed options a inputs).1) := by
  rw [runIn, h.run_eq, Outcome.writtenIn_of_writes writes]
  rfl

/-- Otherwise it is cut short. -/
theorem Rehearses.exists_runIn_of_not_writes
    (h : Rehearses world settings arguments debug options a inputs)
    (refuses : encoding.writes (rehearsalReport ⟨debug⟩ (rehearsed options a inputs).1
      (rehearsed options a inputs).2.notes) = false) :
    ∃ fault, runIn encoding world settings arguments =
      .cut (encoding.written (rehearsalReport ⟨debug⟩ (rehearsed options a inputs).1
        (rehearsed options a inputs).2.notes)).1 (.unwritable fault) := by
  rw [runIn, h.run_eq]
  exact Outcome.exists_writtenIn_of_not_writes refuses

end Written

/-- **The table of results loses nothing and matches the exit status, if it can be written.** A run that
rehearses an action has a table at the end of its report. The table has one row for each entry of the
rehearsal, in order: its text is the number of the step and its label, whatever the labels are, and it says
whether the step was skipped, passed or failed. A failed step has the last row. If the encoding takes the
report, all of it is written, and the exit status is 1 if there is a failed step, and else 0. Otherwise the
run is cut short: part of the report is written, and the exit status is 1 in any case. For an encoding that
takes ASCII characters it depends on the labels, outputs and reasons of failures which of the two it is. -/
theorem runIn_rehearses_results [Platform] {encoding : Encoding} {world : Surroundings}
    {settings : Settings} {arguments : List String} {debug : Bool} {options : SimulateOptions}
    {a : Action} {inputs : Table String String}
    (h : Rehearses world settings arguments debug options a inputs) :
    let entries := (rehearsed options a inputs).1
    let table := (summary entries).entries
    let report := rehearsalReport ⟨debug⟩ entries (rehearsed options a inputs).2.notes
    let outcome := runIn encoding world settings arguments
    (∃ before, report.out = before ++ "\n========================================\nRESULTS\n" ++
        "========================================\n" ++
        Printed.textOfLines (table.map fun row => "  " ++ row.1 ++ ": " ++ capitals row.2)) ∧
      entries.map (·.1) <+: a.steps ∧
      table = entries.mapIdx (fun i entry =>
        (toString (i + 1) ++ ". " ++ entry.1.label, statusText entry.2)) ∧
      (∀ entry ∈ entries,
        (statusText entry.2 = "skipped" ↔ entry.2 = none) ∧
        (statusText entry.2 = "success" ↔ ∃ outputs, entry.2 = some (.passed outputs)) ∧
        (statusText entry.2 = "failed" ↔ ∃ error, entry.2 = some (.failed error))) ∧
      (∀ i (hi : i < table.length), table[i].2 = "failed" → i + 1 = table.length) ∧
      (encoding.writes report = true → outcome.printed.out = report.out ∧
        outcome.FailsIf (∃ row ∈ table, row.2 = "failed") ∧ outcome.escape = none) ∧
      (encoding.writes report = false →
        (∃ rest, report.out = outcome.printed.out ++ rest) ∧ outcome.status = 1 ∧
        ∃ fault, outcome.escape = some (.unwritable fault)) ∧
      (encoding.TakesAscii → (encoding.writes report = true ↔
        ∀ entry ∈ entries, ∀ text ∈ reportTexts ⟨debug⟩ entry, encoding.takesAll text = true)) := by
  intro entries table report outcome
  have run : StepsRun (Mocks.allPlaces - 1) inputs.entries a.steps (standIns options) entries _ :=
    stepsRun_rehearseSteps a.steps (standIns options)
  have table_eq : table = entries.mapIdx fun i entry =>
      (rowText (i + 1) entry.1.label, statusText entry.2) := entries_summary entries
  refine ⟨?_, run.pairs_steps, table_eq, ?_, ?_, ?_, ?_, ?_⟩
  · obtain ⟨before, split⟩ : ∃ before, report = before ++ Console.results table := ⟨_, rfl⟩
    refine ⟨Printed.out before, ?_⟩
    rw [split, Printed.out, Printed.on_append]
    refine (congrArg (_ ++ ·) (Console.out_results table)).trans ?_
    simp only [String.append_assoc]
    rfl
  · exact fun entry _ => statusText_iff
  · intro i hi failed
    have length : table.length = entries.length := by rw [table_eq, List.length_mapIdx]
    have entry_failed : isFailed entries[i] = true := by
      rw [isFailed_iff, ← failed]
      simp only [table_eq, List.getElem_mapIdx]
    -- an entry that is not the last one has passed
    by_contra other
    have before : i < entries.dropLast.length := by
      rw [List.length_dropLast]
      omega
    have mem := List.getElem_mem before
    rw [List.getElem_dropLast] at mem
    rw [run.dropLast_passed _ mem] at entry_failed
    cases entry_failed
  · intro writes
    have run_eq : outcome = .done _ (hasFailure entries) := h.runIn_of_writes writes
    rw [run_eq]
    exact ⟨Encoding.out_map_rewritten report, (Outcome.failsIf_done _ _).of_iff hasFailure_iff, rfl⟩
  · intro refuses
    obtain ⟨fault, cut⟩ := h.exists_runIn_of_not_writes refuses
    have run_eq : outcome = .cut _ (.unwritable fault) := cut
    rw [run_eq]
    exact ⟨Encoding.exists_out_eq_written_append report, rfl, fault, rfl⟩
  · exact fun ascii => writes_rehearsalReport_iff ascii

/-- A folder that holds a text of ASCII characters as an action. -/
def folderWith (text : String) : Surroundings where
  files.resolve names := .ok names
  files.find names :=
    if names = ["action.yml"] then .file (text.toList.map fun c => c.toNat.toUInt8) else .nothing

/-- The text of an action in which the label of the first step is the row of the second one. -/
def twins : String :=
  "name: a\ndescription: b\nruns:\n  using: composite\n  steps:\n" ++
    "  - name: 2. x\n    run: ls\n  - name: x\n    run: pwd"

/-- What is read of it. -/
def twinsAction : Action where
  name := "a"
  description := "b"
  author := ""
  inputs := {}
  runner := "composite"
  steps := [{ name := "2. x", run := some "ls" }, { name := "x", run := some "pwd" }]

theorem twins_accepted :
    ((Library.empty none).action (folderWith twins) {} none).1.map (·.content) = .ok twinsAction := by
  decide +kernel

theorem runIn_rehearses_results_twins :
    Rehearses (folderWith twins) {} ["simulate", "--mock", "ls"] false { mocks := ["ls"] }
      twinsAction {} ∧
      (summary (rehearsed { mocks := ["ls"] } twinsAction {}).1).entries =
        [("1. 2. x", "success"), ("2. x", "failed")] ∧
      (runIn .utf8 (folderWith twins) {} ["simulate", "--mock", "ls"]).status = 1 ∧
      ∃ before, (runIn .utf8 (folderWith twins) {} ["simulate", "--mock", "ls"]).printed.out =
        before ++ "\n========================================\nRESULTS\n" ++
          "========================================\n" ++ "  1. 2. x: SUCCESS\n  2. x: FAILED\n" := by
  have rehearses : Rehearses (folderWith twins) {} ["simulate", "--mock", "ls"] false
      { mocks := ["ls"] } twinsAction {} :=
    ⟨by decide +kernel, twins_accepted, by decide +kernel, by decide +kernel⟩
  have table : (summary (rehearsed { mocks := ["ls"] } twinsAction {}).1).entries =
      [("1. 2. x", "success"), ("2. x", "failed")] := by decide +kernel
  have writes : Encoding.utf8.writes (rehearsalReport ⟨false⟩
      (rehearsed { mocks := ["ls"] } twinsAction {}).1
      (rehearsed { mocks := ["ls"] } twinsAction {}).2.notes) = true := by decide +kernel
  obtain ⟨⟨before, report⟩, -, -, -, -, written, -⟩ := runIn_rehearses_results rehearses
  obtain ⟨out, ⟨-, status⟩, -⟩ := written writes
  refine ⟨rehearses, table, status.2 ⟨("2. x", "failed"), ?_, rfl⟩, before, ?_⟩
  · rw [table]
    exact List.mem_cons_of_mem _ List.mem_cons_self
  · rw [table] at report
    exact out.trans report

/-! ## A name that cannot be written -/

/-- The text of an action with a step of which the name is two halves of surrogate pairs. -/
def halves : String :=
  "name: a\ndescription: b\nruns:\n  using: composite\n  steps:\n" ++
    "  - name: \"\\ud83d\\ude00\"\n    run: ls"

/-- What is read of it. -/
def halvesAction : Action where
  name := "a"
  description := "b"
  author := ""
  inputs := {}
  runner := "composite"
  steps := [{
    name := String.ofList [Platform.standIn ⟨0x3D, by decide⟩, Platform.standIn ⟨0x600, by decide⟩]
    run := some "ls" }]

theorem halves_rehearsed :
    Rehearses (folderWith halves) {} ["simulate", "--permissive"] false { permissive := true }
      halvesAction {} :=
  ⟨by decide +kernel, by decide +kernel, by decide +kernel, by decide +kernel⟩

/-- The run ends with the fault of writing the name, before anything is written. -/
theorem runIn_halves :
    runIn .utf8 (folderWith halves) {} ["simulate", "--permissive"] =
      .cut [] (.unwritable ⟨"utf-8", "surrogates not allowed", 0xD83D, 6, 7⟩) := by
  rw [runIn, halves_rehearsed.run_eq]
  decide +kernel

/-- Its exit status is 1, and no row of the table is that of a failed step. -/
theorem halves_end_unfailed :
    ¬∀ (world : Surroundings) (settings : Settings) (arguments : List String) (debug : Bool)
      (options : SimulateOptions) (a : Action) (inputs : Table String String),
      Rehearses world settings arguments debug options a inputs →
        ((runIn .utf8 world settings arguments).status = 1 ↔
          ∃ row ∈ (summary (rehearsed options a inputs).1).entries, row.2 = "failed") := by
  intro claim
  have fails : (runIn .utf8 (folderWith halves) {} ["simulate", "--permissive"]).status = 1 := by
    rw [runIn_halves]
    rfl
  have unfailed : ∀ row ∈ (summary (rehearsed { permissive := true } halvesAction {}).1).entries,
      row.2 ≠ "failed" := by decide +kernel
  obtain ⟨row, mem, failed⟩ := (claim _ _ _ _ _ _ _ halves_rehearsed).1 fails
  exact unfailed row mem failed

end ActionRehearsal.CommandLine
