import ActionRehearsal.Proofs.Rehearsal.Commands
import ActionRehearsal.Proofs.Text.Lines

/-!
# The normal form of a script

A script may have space around each of its lines, and idle lines between them: blank lines and comments.
`Loosened lines loose` says that the second lines are the first ones with such space and such lines added.

Loosening changes no command (`Loosened.filterMap_eq`), and the lines of a script are loosened from its
commands (`loosened_filterMap`). A command has nothing more to take off it (`NormalCommand`), so a script
that is made of such commands has exactly these (`commands_intercalate`). The main statement,
`Step.commands_normal`, is that the commands of a step are the only normal ones that the lines of its script
are loosened from.
-/

set_option autoImplicit false

namespace ActionRehearsal

open ActionRehearsal.Text

/-! ## Lines and commands -/

/-- Whether these texts are the lines of a script: there is one at least, none goes over the end of a
line, and the script is what they are with a newline between each two of them. -/
structure LinesOf (script : String) (lines : List String) : Prop where
  joined : script = "\n".intercalate lines
  ne : lines ≠ []
  single : ∀ line ∈ lines, '\n' ∉ line.toList

/-- Whether a command is as short as it can be: something on one line, without blank characters at its
ends, that is no comment. -/
structure NormalCommand (command : String) : Prop where
  ne : command ≠ ""
  trim_eq : trimmed command = command
  single : '\n' ∉ command.toList
  plain : ¬"#".toList <+: command.toList

/-- Whether a text is blank and goes on no further line. -/
def IsSpace (space : String) : Prop := ∀ c ∈ space.toList, isBlank c = true ∧ c ≠ '\n'

instance (space : String) : Decidable (IsSpace space) :=
  List.decidableBAll (fun c => isBlank c = true ∧ c ≠ '\n') space.toList

/-- Lines that hold no command. -/
inductive Idle : String → Prop where
  | blank {line : String} (h : IsSpace line) : Idle line
  | comment {space text : String} (h : IsSpace space) (single : '\n' ∉ text.toList) :
      Idle (space ++ "#" ++ text)

/-- Whether lines are other lines with space around each of them and idle lines between them. -/
inductive Loosened : List String → List String → Prop where
  | nil : Loosened [] []
  | line {before after line : String} {lines loose : List String} (hbefore : IsSpace before)
      (hafter : IsSpace after) (more : Loosened lines loose) :
      Loosened (line :: lines) ((before ++ line ++ after) :: loose)
  | idle {line : String} {lines loose : List String} (h : Idle line) (more : Loosened lines loose) :
      Loosened lines (line :: loose)

/-- The command of a line, if there is one. -/
def lineCommand? (line : String) : Option String :=
  if isCommand (trimmed line).toList then some (trimmed line) else none

/-! ## The lines of a script -/

section Lines

variable {script : String} {lines : List String}

/-- The lines of a script are its pieces between newlines. -/
theorem linesOf_iff :
    LinesOf script lines ↔ lines.map String.toList = splitAtNewlines script.toList := by
  constructor
  · intro h
    have single : ∀ piece ∈ lines.map String.toList, '\n' ∉ piece := by
      simpa using h.single
    rw [h.joined, toList_intercalate_newline]
    exact (splitAtEach_joinWith (by simpa using h.ne) single).symm
  · intro pieces
    refine ⟨?_, ?_, ?_⟩
    · rw [← String.toList_inj, toList_intercalate_newline, pieces]
      exact (joinWith_splitAtEach '\n' script.toList).symm
    · rintro rfl
      exact splitAtEach_ne_nil '\n' script.toList pieces.symm
    · intro line mem
      exact not_mem_of_mem_splitAtEach _ (pieces ▸ List.mem_map_of_mem mem)

/-- Every script has lines. -/
theorem exists_linesOf (script : String) : ∃ lines, LinesOf script lines := by
  refine ⟨(splitAtNewlines script.toList).map String.ofList, linesOf_iff.2 ?_⟩
  simp [List.map_map, Function.comp_def]

/-- The commands of a script are those of its lines. -/
theorem commands_of_linesOf (h : LinesOf script lines) :
    commands script = lines.filterMap lineCommand? := by
  rw [commands, commandLines, ← linesOf_iff.1 h]
  clear h
  induction lines with
  | nil => rfl
  | cons line rest ih =>
      rw [List.filterMap_cons, lineCommand?, trimmed, String.toList_ofList, List.map_cons, List.map_cons,
        List.filter_cons]
      split
      · rw [List.map_cons, ih]
      · exact ih

end Lines

/-! ## The command of a line -/

theorem isCommand_iff {line : List Char} : isCommand line = true ↔ line ≠ [] ∧ ¬"#".toList <+: line := by
  cases line with
  | nil => simp [isCommand]
  | cons c rest =>
      have start : "#".toList <+: c :: rest ↔ '#' = c := by simp
      rw [isCommand, bne_iff_ne, start]
      exact ⟨fun other => ⟨List.cons_ne_nil c rest, Ne.symm other⟩, fun h => Ne.symm h.2⟩

/-- A line has a command exactly if something other than a comment is left of it once it is trimmed. -/
theorem lineCommand?_eq_some_iff {line command : String} :
    lineCommand? line = some command ↔
      trimmed line = command ∧ command ≠ "" ∧ ¬"#".toList <+: command.toList := by
  rw [lineCommand?, Option.ite_none_right_eq_some, isCommand_iff, Option.some_inj, ne_eq,
    String.toList_eq_nil_iff]
  constructor
  · rintro ⟨kept, rfl⟩
    exact ⟨rfl, kept⟩
  · rintro ⟨rfl, kept⟩
    exact ⟨kept, rfl⟩

/-- Space around a line is not seen. -/
theorem lineCommand?_append {before after : String} (hbefore : IsSpace before) (hafter : IsSpace after)
    (line : String) : lineCommand? (before ++ line ++ after) = lineCommand? line := by
  have same : trimmed (before ++ line ++ after) = trimmed line := by
    rw [trimmed, String.toList_append, String.toList_append,
      trim_append (fun c mem => (hbefore c mem).1) (fun c mem => (hafter c mem).1), trimmed]
  rw [lineCommand?, lineCommand?, same]

/-- An idle line has no command. -/
theorem lineCommand?_of_idle {line : String} (idle : Idle line) : lineCommand? line = none := by
  refine Option.eq_none_iff_forall_ne_some.2 fun command found => ?_
  obtain ⟨rfl, ne, plain⟩ := lineCommand?_eq_some_iff.1 found
  cases idle with
  | blank h => exact ne (trimmed_eq_empty_iff.2 fun c mem => (h c mem).1)
  | @comment space text h single =>
      -- the sign of a comment is not blank, so it is the first character that is left
      have whole : (space ++ "#" ++ text).toList = space.toList ++ '#' :: text.toList ++ [] := by simp
      have left : trim (space ++ "#" ++ text).toList = '#' :: trimEnd text.toList := by
        rw [whole, trim_append (fun c mem => (h c mem).1) (by simp), trim_cons (by decide)]
      rw [trimmed, String.toList_ofList, left] at plain
      exact plain (by simp)

/-- A line is what it is trimmed to, with space around it. -/
theorem exists_eq_append_trimmed {line : String} (single : '\n' ∉ line.toList) :
    ∃ before after, IsSpace before ∧ IsSpace after ∧ line = before ++ trimmed line ++ after := by
  obtain ⟨before, after, hbefore, hafter, split⟩ := exists_eq_append_trim line.toList
  have space {blank : List Char} (h : ∀ c ∈ blank, isBlank c = true) (part : ∀ c ∈ blank, c ∈ line.toList) :
      IsSpace (String.ofList blank) := by
    intro c mem
    rw [String.toList_ofList] at mem
    exact ⟨h c mem, fun newline => single (newline ▸ part c mem)⟩
  refine ⟨String.ofList before, String.ofList after, space hbefore ?_, space hafter ?_, ?_⟩
  · intro c mem
    rw [split]
    simp [mem]
  · intro c mem
    rw [split]
    simp [mem]
  · rw [← String.toList_inj]
    simpa [trimmed] using split

/-- A line without a command is idle. -/
theorem idle_of_lineCommand?_eq_none {line : String} (single : '\n' ∉ line.toList)
    (none : lineCommand? line = none) : Idle line := by
  obtain ⟨before, after, hbefore, hafter, split⟩ := exists_eq_append_trimmed single
  by_cases empty : trimmed line = ""
  · refine .blank fun c mem => ⟨trimmed_eq_empty_iff.1 empty c mem, ?_⟩
    rintro rfl
    exact single mem
  · have comment : "#".toList <+: (trimmed line).toList := by
      by_contra plain
      rw [lineCommand?_eq_some_iff.2 ⟨rfl, empty, plain⟩] at none
      cases none
    obtain ⟨text, e⟩ := comment
    have whole : line = before ++ "#" ++ (String.ofList text ++ after) := by
      have left : trimmed line = "#" ++ String.ofList text := by
        rw [← String.toList_inj, ← e]
        simp
      rw [split, left]
      simp only [String.append_assoc]
    rw [whole] at single ⊢
    refine .comment hbefore fun mem => single ?_
    rw [String.toList_append]
    exact List.mem_append_right _ mem

/-! ## Normal commands -/

/-- What a line gives is normal. -/
theorem normalCommand_of_lineCommand? {line command : String} (single : '\n' ∉ line.toList)
    (found : lineCommand? line = some command) : NormalCommand command := by
  obtain ⟨rfl, ne, plain⟩ := lineCommand?_eq_some_iff.1 found
  refine ⟨ne, ?_, ?_, plain⟩
  · simp [trimmed, trim_trim]
  · obtain ⟨before, after, -, -, split⟩ := exists_eq_append_trimmed single
    intro mem
    rw [split] at single
    exact single (by simp [mem])

/-- A normal command is the command of the line that it is. -/
theorem NormalCommand.lineCommand?_eq {command : String} (h : NormalCommand command) :
    lineCommand? command = some command :=
  lineCommand?_eq_some_iff.2 ⟨h.trim_eq, h.ne, h.plain⟩

theorem filterMap_of_normal {commands : List String} (h : ∀ command ∈ commands, NormalCommand command) :
    commands.filterMap lineCommand? = commands := by
  rw [List.filterMap_congr fun command mem => (h command mem).lineCommand?_eq, List.filterMap_some]

/-- A script made of normal commands has these commands. -/
theorem commands_intercalate {commands : List String}
    (h : ∀ command ∈ commands, NormalCommand command) :
    ActionRehearsal.commands ("\n".intercalate commands) = commands := by
  cases commands with
  | nil => rfl
  | cons command rest =>
      have lines : LinesOf ("\n".intercalate (command :: rest)) (command :: rest) :=
        ⟨rfl, List.cons_ne_nil _ _, fun line mem => (h line mem).single⟩
      rw [commands_of_linesOf lines, filterMap_of_normal h]

/-! ## Loosening -/

/-- Loosening does not change what the lines give. -/
theorem Loosened.filterMap_eq {lines loose : List String} (h : Loosened lines loose) :
    loose.filterMap lineCommand? = lines.filterMap lineCommand? := by
  induction h with
  | nil => rfl
  | line hbefore hafter more ih =>
      rw [List.filterMap_cons, List.filterMap_cons, lineCommand?_append hbefore hafter, ih]
  | idle idle more ih => rw [List.filterMap_cons, lineCommand?_of_idle idle, ih]

/-- Lines are loosened from what they give. -/
theorem loosened_filterMap {lines : List String} (single : ∀ line ∈ lines, '\n' ∉ line.toList) :
    Loosened (lines.filterMap lineCommand?) lines := by
  induction lines with
  | nil => exact .nil
  | cons line rest ih =>
      obtain ⟨first, later⟩ := List.forall_mem_cons.1 single
      rw [List.filterMap_cons]
      cases found : lineCommand? line with
      | none => exact .idle (idle_of_lineCommand?_eq_none first found) (ih later)
      | some command =>
          obtain ⟨before, after, hbefore, hafter, split⟩ := exists_eq_append_trimmed first
          obtain ⟨rfl, -, -⟩ := lineCommand?_eq_some_iff.1 found
          have more : Loosened (trimmed line :: rest.filterMap lineCommand?)
              ((before ++ trimmed line ++ after) :: rest) := .line hbefore hafter (ih later)
          rwa [← split] at more

/-! ## Steps -/

/-- The commands of a step are those of the lines of its script. -/
theorem Step.commands_eq_filterMap {step : Step} {script : String} {lines : List String}
    (run : step.run = some script) (h : LinesOf script lines) :
    step.commands = lines.filterMap lineCommand? :=
  (Step.commands_of_run run).trans (commands_of_linesOf h)

theorem Step.normalCommand_of_mem (step : Step) : ∀ command ∈ step.commands, NormalCommand command := by
  cases run : step.run with
  | none => simp [Step.commands, Step.script?, firstGiven, run]
  | some script =>
      obtain ⟨lines, h⟩ := exists_linesOf script
      rw [Step.commands_eq_filterMap run h]
      intro command mem
      obtain ⟨line, mem_lines, found⟩ := List.mem_filterMap.1 mem
      exact normalCommand_of_lineCommand? (h.single line mem_lines) found

/-- **The commands of a step are a normal form of its script.** Each of them is normal, and a step whose
script is made of them has them again. They are the only normal commands that the lines of the script are
loosened from, and a step whose script is loosened further has the same ones. -/
theorem Step.commands_normal (step : Step) :
    (∀ command ∈ step.commands, NormalCommand command) ∧
      { step with run := some ("\n".intercalate step.commands) }.commands = step.commands ∧
      ∀ script lines, step.run = some script → LinesOf script lines →
        (∀ commands, commands = step.commands ↔
          (∀ command ∈ commands, NormalCommand command) ∧ Loosened commands lines) ∧
        ∀ script' loose, LinesOf script' loose → Loosened lines loose →
          { step with run := some script' }.commands = step.commands := by
  have normal := step.normalCommand_of_mem
  refine ⟨normal, (Step.commands_of_run rfl).trans (commands_intercalate normal), ?_⟩
  intro script lines run h
  have found := Step.commands_eq_filterMap run h
  refine ⟨fun commands => ⟨?_, ?_⟩, ?_⟩
  · rintro rfl
    refine ⟨normal, ?_⟩
    rw [found]
    exact loosened_filterMap h.single
  · rintro ⟨all, loosening⟩
    rw [found, loosening.filterMap_eq, filterMap_of_normal all]
  · intro script' loose h' loosening
    rw [Step.commands_eq_filterMap rfl h', loosening.filterMap_eq, found]

/-- The lines of a script, one of them a comment, with blank characters that end a line elsewhere. -/
def looseLines : List String := ["\tmake\u2028", "#", "echo a #b\x1c"]

/-- The same lines with space around them, a blank line and one more comment. -/
def looserLines : List String :=
  ["\x85", " " ++ "\tmake\u2028" ++ "\u3000", "\x0b" ++ "#" ++ " all", "" ++ "#" ++ "\t",
    "" ++ "echo a #b\x1c" ++ "\r"]

/-- A step with that script. -/
def looseStep : Step := { id := some "build", run := some ("\n".intercalate looseLines) }

theorem Step.commands_normal_loose :
    looseStep.commands = ["make", "echo a #b"] ∧ (∀ command ∈ looseStep.commands, NormalCommand command) ∧
      { looseStep with run := some "make\necho a #b" }.commands = looseStep.commands ∧
      Loosened ["make", "echo a #b"] looseLines ∧ Loosened looseLines looserLines ∧
      { looseStep with run := some ("\n".intercalate looserLines) }.commands =
        ["make", "echo a #b"] := by
  have space : ∀ space ∈ [" ", "\u3000", "\x0b", "", "\t", "\r", "\x85"], IsSpace space := by
    decide +kernel
  have loosening : Loosened looseLines looserLines :=
    .idle (.blank (space _ (by simp)))
      (.line (space _ (by simp)) (space _ (by simp))
        (.idle (.comment (space _ (by simp)) (by decide +kernel))
          (.line (space _ (by simp)) (space _ (by simp))
            (.line (space _ (by simp)) (space _ (by simp)) .nil))))
  have lines : LinesOf ("\n".intercalate looseLines) looseLines :=
    ⟨rfl, by decide, by decide +kernel⟩
  have looser : LinesOf ("\n".intercalate looserLines) looserLines :=
    ⟨rfl, by decide, by decide +kernel⟩
  have found : looseStep.commands = ["make", "echo a #b"] := by decide +kernel
  obtain ⟨normal, again, of_lines⟩ := Step.commands_normal looseStep
  obtain ⟨unique, further⟩ := of_lines _ _ rfl lines
  have less := ((unique _).1 rfl).2
  have more := further _ _ looser loosening
  rw [found] at again less more
  exact ⟨found, normal, again.trans found.symm, less, loosening, more⟩

end ActionRehearsal
