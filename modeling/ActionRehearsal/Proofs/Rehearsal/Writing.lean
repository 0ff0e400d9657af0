import ActionRehearsal.Proofs.Placeholder
import ActionRehearsal.Proofs.Rehearsal.Commands
import ActionRehearsal.Proofs.Text.Lines
import Mathlib.Tactic.MkIffOfInductiveProp

/-!
# Writing outputs and recording them

A script can write outputs, one a line, as `writingLine` spells them. The main statement is
`rehearseStep_writing`: rehearsing a step with such a script records exactly these outputs, in
order and under the id of the step, and does nothing else. Nothing is executed on the way, which
is said by letting commands do whatever they may: the outcome is the same.

The name and the value are read back by shortest runs. That these stop at the intended places rests
on `Dialect.unbordered_ending`: what ends a written output overlaps no shifted copy of itself.
-/

set_option autoImplicit false

namespace ActionRehearsal

open ActionRehearsal.Text

/-- What ends a command that writes an output under a shell. -/
def writingEnd (shell : Option String) : String :=
  if shell = some "powershell" then "\" >> $env:GITHUB_OUTPUT" else "\" >> $GITHUB_OUTPUT"

/-- The command that writes an output under a shell. -/
def writingLine (shell : Option String) (output : String × String) : String :=
  "echo \"" ++ output.1 ++ "=" ++ output.2 ++ writingEnd shell

/-- The script that writes outputs, one a line. -/
def writingScript (shell : Option String) (outputs : List (String × String)) : String :=
  "\n".intercalate (outputs.map (writingLine shell))

/-- What recording outputs sets, by the places that they have under the id of a step. -/
def recorded (id : Option String) (outputs : List (String × String)) : List (String × String) :=
  outputs.map fun output => (outputKey id output.1, output.2)

/-- Whether an output can be written on one line: its name and value are not empty and hold no
newline, the name holds no equals sign and the value nothing that would end it, and in neither a
placeholder starts. -/
@[mk_iff]
structure Writable (shell : Option String) (output : String × String) : Prop where
  name_ne : output.1 ≠ ""
  name_newline : '\n' ∉ output.1.toList
  name_equals : '=' ∉ output.1.toList
  name_placeholder : ¬Placeholder.opening <:+: output.1.toList
  value_ne : output.2 ≠ ""
  value_newline : '\n' ∉ output.2.toList
  value_end : ¬(writingEnd shell).toList <:+: output.2.toList
  value_placeholder : ¬Placeholder.opening <:+: output.2.toList

instance (shell : Option String) (output : String × String) : Decidable (Writable shell output) :=
  decidable_of_iff _ (writable_iff shell output).symm

/-! ## Reading a written output back -/

theorem Dialect.unbordered_ending (dialect : Dialect) : Unbordered dialect.ending := by
  cases dialect <;> decide +kernel

/-- The value is read up to the ending, if it does not hold it. -/
theorem Dialect.shortestRun_ending (dialect : Dialect) {value : List Char} (ne : value ≠ [])
    (newline : '\n' ∉ value) (absent : ¬dialect.ending <:+: value) :
    shortestRun (literal dialect.ending) (value ++ dialect.ending) = some (value, []) := by
  apply shortestRun_append ne newline (literal_self dialect.ending)
  rintro first last rfl hfirst hlast
  have h := dialect.unbordered_ending.literal_eq_none hlast absent []
  rwa [List.append_nil] at h

/-- The name is read up to the first equals sign, and the value after it. -/
theorem Dialect.assignment?_writing (dialect : Dialect) {name value : List Char}
    (name_ne : name ≠ []) (name_newline : '\n' ∉ name) (name_equals : '=' ∉ name)
    (value_ne : value ≠ []) (value_newline : '\n' ∉ value)
    (value_end : ¬dialect.ending <:+: value) :
    dialect.assignment? (Dialect.opening ++ (name ++ '=' :: (value ++ dialect.ending))) =
      some (name, value) := by
  have hvalue := dialect.shortestRun_ending value_ne value_newline value_end
  have hname : shortestRun
      (fun s => (literal ['='] s).bind (shortestRun (literal dialect.ending)))
      (name ++ '=' :: (value ++ dialect.ending)) = some (name, (value, [])) := by
    apply shortestRun_append name_ne name_newline
    · simpa [literal] using hvalue
    · intro first last e hfirst hlast
      cases last with
      | nil => exact absurd rfl hlast
      | cons c last =>
          have hc : '=' ≠ c := by
            rintro rfl
            exact name_equals (by simp [e])
          simp [literal, hc]
  rw [Dialect.assignment?, literal_append]
  simp [hname]

/-- A command in which an output is written mentions one. -/
theorem mayWrite_of_split {dialect : Dialect} {command : String} {before between after : List Char}
    (split : command.toList =
      before ++ (Dialect.opening ++ (between ++ (dialect.ending ++ after)))) :
    Dialect.mayWrite command = true := by
  have hecho : "echo".toList <:+: Dialect.opening := by decide +kernel
  have hmark : "GITHUB_OUTPUT".toList <:+: dialect.ending := by
    cases dialect with
    | standard => decide +kernel
    | powershell => decide +kernel
  rw [Dialect.mayWrite, Bool.and_eq_true, String.holds_iff, String.holds_iff, split]
  constructor
  · exact List.infix_append_of_infix_right (List.infix_append_of_infix_left hecho)
  · refine List.infix_append_of_infix_right (List.infix_append_of_infix_right ?_)
    exact List.infix_append_of_infix_right (List.infix_append_of_infix_left hmark)

/-! ## Written lines -/

section Line

variable {shell : Option String} {output : String × String}

theorem toList_writingEnd (shell : Option String) :
    (writingEnd shell).toList = (Dialect.ofShell shell).ending := by
  by_cases h : shell = some "powershell"
  · have hdialect : Dialect.ofShell shell = .powershell := if_pos h
    rw [writingEnd, if_pos h, hdialect]
    rfl
  · have hdialect : Dialect.ofShell shell = .standard := if_neg h
    rw [writingEnd, if_neg h, hdialect]
    rfl

theorem toList_writingLine (shell : Option String) (output : String × String) :
    (writingLine shell output).toList =
      Dialect.opening ++
        (output.1.toList ++ '=' :: (output.2.toList ++ (Dialect.ofShell shell).ending)) := by
  simp only [writingLine, String.toList_append, toList_writingEnd, List.append_assoc]
  rfl

/-- A written output is read back. -/
theorem Writable.written? (h : Writable shell output) :
    (Dialect.ofShell shell).written? (writingLine shell output) = some output := by
  have hread := (Dialect.ofShell shell).assignment?_writing (by simpa using h.name_ne)
    h.name_newline h.name_equals (by simpa using h.value_ne) h.value_newline
    (by simpa [toList_writingEnd] using h.value_end)
  rw [Dialect.written?, toList_writingLine, firstMatch_of_eq_some hread]
  simp

/-- A line that writes an output mentions what every such line mentions. -/
theorem mayWrite_writingLine (shell : Option String) (output : String × String) :
    Dialect.mayWrite (writingLine shell output) = true := by
  have split : (writingLine shell output).toList =
      [] ++ (Dialect.opening ++ ((output.1.toList ++ '=' :: output.2.toList) ++
        ((Dialect.ofShell shell).ending ++ []))) := by
    rw [toList_writingLine]
    simp
  exact mayWrite_of_split split

/-- Taking the line records the output and executes nothing. -/
theorem Writable.handle (h : Writable shell output) (execute : Executor) (id : Option String)
    (m : Mocks) :
    Mocks.handle execute (Dialect.ofShell shell) id (writingLine shell output) m =
      (.ok (), m.record id output) := by
  have hwritten := h.written?
  have hmay := mayWrite_writingLine shell output
  cases dialect : Dialect.ofShell shell with
  | standard =>
      rw [dialect] at hwritten
      simp [Mocks.handle, Mocks.perform, hmay, hwritten]
  | powershell =>
      rw [dialect] at hwritten
      simp [Mocks.handle, Mocks.probe, hmay, hwritten]

/-- The line is its own trimmed form, and no comment. -/
theorem trim_writingLine (shell : Option String) (output : String × String) :
    trim (writingLine shell output).toList = (writingLine shell output).toList ∧
      isCommand (writingLine shell output).toList = true := by
  have hopening : Dialect.opening = 'e' :: "cho \"".toList := by decide +kernel
  have hending : ∀ dialect : Dialect, dialect.ending.getLast? = some 'T' := by
    intro dialect
    cases dialect <;> decide +kernel
  rw [toList_writingLine, hopening]
  constructor
  · refine trim_eq_self ?_ ?_
    · intro c hc
      obtain rfl : 'e' = c := by simpa using hc
      decide
    · intro c hc
      obtain rfl : 'T' = c := by
        simpa [List.getLast?_cons, List.getLast?_append, hending] using hc
      decide
  · rfl

/-- The line holds no newline. -/
theorem Writable.newline_not_mem (h : Writable shell output) :
    '\n' ∉ (writingLine shell output).toList := by
  have hopening : '\n' ∉ Dialect.opening := by decide +kernel
  have hending : ∀ dialect : Dialect, '\n' ∉ dialect.ending := by
    intro dialect
    cases dialect <;> decide +kernel
  simp [toList_writingLine, hopening, hending, h.name_newline, h.value_newline]

/-- No placeholder starts in the line. -/
theorem Writable.no_placeholder (h : Writable shell output) :
    ¬Placeholder.opening <:+: (writingLine shell output).toList := by
  have hopening : Dialect.opening = "echo ".toList ++ '"' :: [] := by decide +kernel
  have hecho : ¬Placeholder.opening <:+: "echo ".toList := by decide +kernel
  have hending : ∀ dialect : Dialect, ∃ mark, dialect.ending = '"' :: mark ∧
      ¬Placeholder.opening <:+: mark := by
    intro dialect
    cases dialect with
    | standard => exact ⟨" >> $GITHUB_OUTPUT".toList, by decide +kernel, by decide +kernel⟩
    | powershell => exact ⟨" >> $env:GITHUB_OUTPUT".toList, by decide +kernel, by decide +kernel⟩
  -- cut at the quotes and the equals sign, which the opening of a placeholder does not hold
  obtain ⟨mark, hend, hmark⟩ := hending (Dialect.ofShell shell)
  have hquote : '"' ∉ Placeholder.opening := by decide
  have hequals : '=' ∉ Placeholder.opening := by decide
  rw [toList_writingLine, hopening, hend, List.append_assoc, List.cons_append, List.nil_append,
    infix_append_cons_iff hquote, infix_append_cons_iff hequals, infix_append_cons_iff hquote]
  rintro (p | p | p | p)
  · exact hecho p
  · exact h.name_placeholder p
  · exact h.value_placeholder p
  · exact hmark p

end Line

/-! ## Written scripts -/

section Script

variable {shell : Option String} {outputs : List (String × String)}

theorem toList_writingScript (shell : Option String) (outputs : List (String × String)) :
    (writingScript shell outputs).toList =
      joinWith '\n' (outputs.map fun output => (writingLine shell output).toList) := by
  rw [writingScript, toList_intercalate_newline, List.map_map]
  rfl

/-- The lines of the script are those that were written. -/
theorem splitAtNewlines_writingScript (ne : outputs ≠ [])
    (h : ∀ output ∈ outputs, Writable shell output) :
    splitAtNewlines (writingScript shell outputs).toList =
      outputs.map fun output => (writingLine shell output).toList := by
  rw [toList_writingScript]
  refine splitAtEach_joinWith (by simpa using ne) ?_
  intro line hline
  obtain ⟨output, houtput, rfl⟩ := List.mem_map.1 hline
  exact (h output houtput).newline_not_mem

theorem writingScript_ne_empty (ne : outputs ≠ [])
    (h : ∀ output ∈ outputs, Writable shell output) : writingScript shell outputs ≠ "" := by
  intro e
  have hopening : Dialect.opening ≠ [] := by decide +kernel
  have hlines := splitAtNewlines_writingScript ne h
  cases outputs with
  | nil => exact ne rfl
  | cons output outputs =>
      rw [e, List.map_cons, toList_writingLine] at hlines
      simp [splitAtEach, hopening] at hlines

/-- No placeholder starts in the script, so no input changes it. -/
theorem interpolate_writingScript (h : ∀ output ∈ outputs, Writable shell output)
    (inputs : List (String × String)) :
    interpolate inputs (writingScript shell outputs) = writingScript shell outputs := by
  refine interpolate_eq_self ?_ inputs
  rw [toList_writingScript]
  -- the opening of a placeholder holds no newline, so it would stand within one line
  have hnewline : '\n' ∉ Placeholder.opening := by decide
  induction outputs with
  | nil => exact fun p => absurd (List.eq_nil_of_infix_nil p) (by decide)
  | cons output outputs ih =>
      have hhead := (h output List.mem_cons_self).no_placeholder
      have htail := ih fun other hother => h other (List.mem_cons_of_mem _ hother)
      cases outputs with
      | nil => exact hhead
      | cons second outputs =>
          rw [List.map_cons, List.map_cons, joinWith_cons_cons, infix_append_cons_iff hnewline]
          exact not_or_intro hhead htail

/-- Taking the lines records the outputs in order. -/
theorem takeLines_writingLines (h : ∀ output ∈ outputs, Writable shell output)
    (execute : Executor) (id : Option String) (m : Mocks) :
    takeLines (Mocks.handle execute (Dialect.ofShell shell) id)
        (outputs.map fun output => (writingLine shell output).toList) m =
      (.ok (), { m with outputs := m.outputs.update (recorded id outputs) }) := by
  induction outputs generalizing m with
  | nil => rfl
  | cons output outputs ih =>
      have hhead := (h output List.mem_cons_self).handle execute id m
      have htail := ih fun other hother => h other (List.mem_cons_of_mem _ hother)
      -- the line is handed on as it stands, and taking it is recording its output
      obtain ⟨htrim, hcommand⟩ := trim_writingLine shell output
      rw [List.map_cons, takeLines_cons, htrim, if_pos hcommand, String.ofList_toList, hhead]
      exact htail (m.record id output)

end Script

/-- **Recording undoes writing.** A step whose script writes outputs passes, whatever inputs there
are, and leaves the mocks as they were with these outputs recorded in order under its id: a later
value of a name wins, and a recorded name keeps its place. Whatever executing a command would do,
the outcome is the same, for no command is executed. -/
theorem rehearseStep_writing (step : Step) {outputs : List (String × String)} (ne : outputs ≠ [])
    (h : ∀ output ∈ outputs, Writable step.shell output) (inputs : List (String × String))
    (m : Mocks) :
    let written := { step with run := some (writingScript step.shell outputs) }
    let m' := { m with outputs := m.outputs.update (recorded step.id outputs) }
    (∀ places, rehearseStep places inputs written m =
      (.passed (some (m'.outputsOf step.id)), m')) ∧
      ∀ execute, rehearseStepWith execute inputs written m =
        (.passed (some (m'.outputsOf step.id)), m') := by
  intro written m'
  have hscript : written.script? = some (writingScript step.shell outputs) :=
    Step.script?_of_run rfl (writingScript_ne_empty ne h)
  have hall : ∀ execute, rehearseStepWith execute inputs written m =
      (.passed (some (m'.outputsOf step.id)), m') := by
    intro execute
    have htake := takeLines_writingLines h execute step.id m
    rw [rehearseStepWith, hscript]
    simp only [interpolate_writingScript h, splitAtNewlines_writingScript ne h]
    rw [show Mocks.handle execute (Dialect.ofShell written.shell) written.id =
      Mocks.handle execute (Dialect.ofShell step.shell) step.id from rfl, htake]
  exact ⟨fun places => hall (Mocks.dispatch (places - 2)), hall⟩

/-- Two values of one name, with an equals sign, quotes and the marks of a probe in them. -/
def tagOutputs : List (String × String) := [("tag", "echo \"a=b\""), ("tag", "try \x7b")]

/-- A step under PowerShell. -/
def metaStep : Step := { id := some "meta", shell := some "powershell" }

theorem rehearseStep_writing_tag :
    tagOutputs ≠ [] ∧ (∀ output ∈ tagOutputs, Writable metaStep.shell output) ∧
      (rehearseStep 993 [("tag", "x")]
        { metaStep with run := some (writingScript metaStep.shell tagOutputs) } {}).2.outputs.entries =
          [("steps.meta.outputs.tag", "try \x7b")] := by
  have ne : tagOutputs ≠ [] := by decide
  have h : ∀ output ∈ tagOutputs, Writable metaStep.shell output := by decide +kernel
  have run := (rehearseStep_writing metaStep ne h [("tag", "x")] {}).1 993
  have update : (({} : Table String String).update (recorded metaStep.id tagOutputs)).entries =
      [("steps.meta.outputs.tag", "try \x7b")] := by decide +kernel
  exact ⟨ne, h, (congrArg (·.2.outputs.entries) run).trans update⟩

end ActionRehearsal
