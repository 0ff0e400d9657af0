import ActionRehearsal.Proofs.Rehearsal.Writing

/-!
# What is captured of a written output

A command may write an output at several places, and at one place in several ways, for its name and its
value may themselves hold an equals sign or what ends a written output (`Dialect.WritesAt`). The one that
is captured stands leftmost, and there it has the shortest name and after that the shortest value
(`Dialect.Captures`). There is at most one such, and `Dialect.captures_iff` says that it is what the
matchers find.

The main statement, `handle_iff_takenPlainly`, is that under all shells but PowerShell a command is taken
by a plain rule: what it captures is recorded, and if it writes no output anywhere it is executed. That a
command is first asked whether it mentions an output at all changes nothing.
-/

set_option autoImplicit false

namespace ActionRehearsal

open ActionRehearsal.Text

/-! ## Places where an output is written -/

namespace Dialect

/-- Whether a command writes an output with this name and this value between what stands before and what
stands after it. Neither of the two is empty, and neither holds a newline. -/
structure WritesAt (dialect : Dialect) (command before name value after : List Char) : Prop where
  split : command =
    before ++ (opening ++ (name ++ '=' :: (value ++ (dialect.ending ++ after))))
  name_ne : name ≠ []
  name_plain : '\n' ∉ name
  value_ne : value ≠ []
  value_plain : '\n' ∉ value

/-- Whether an output is the one that is captured: no output is written further left, none at the same
place has a shorter name, and none there with that name has a shorter value. -/
structure Captures (dialect : Dialect) (command before name value after : List Char) : Prop where
  written : dialect.WritesAt command before name value after
  leftmost : ∀ before' name' value' after',
    dialect.WritesAt command before' name' value' after' → before.length ≤ before'.length
  name_shortest : ∀ name' value' after',
    dialect.WritesAt command before name' value' after' → name.length ≤ name'.length
  value_shortest : ∀ value' after',
    dialect.WritesAt command before name value' after' → value.length ≤ value'.length

variable {dialect : Dialect} {command before name value after rest : List Char}

/-- A place within a command is a place within what follows the part before it. -/
theorem writesAt_append_iff :
    dialect.WritesAt (before ++ rest) before name value after ↔
      dialect.WritesAt rest [] name value after := by
  constructor
  · intro written
    exact ⟨List.append_cancel_left written.split, written.name_ne, written.name_plain,
      written.value_ne, written.value_plain⟩
  · intro written
    exact ⟨congrArg (before ++ ·) written.split, written.name_ne, written.name_plain,
      written.value_ne, written.value_plain⟩

/-- A command that writes an output mentions one. -/
theorem WritesAt.mayWrite {command : String}
    (written : Dialect.standard.WritesAt command.toList before name value after) :
    Dialect.mayWrite command = true := by
  have split : command.toList =
      before ++ (opening ++ ((name ++ '=' :: value) ++ (Dialect.standard.ending ++ after))) := by
    rw [written.split]
    simp
  exact mayWrite_of_split split

/-! ## One output is captured -/

/-- No two outputs of a command are captured. -/
theorem Captures.unique {before' name' value' after' : List Char}
    (captures : dialect.Captures command before name value after)
    (captures' : dialect.Captures command before' name' value' after') :
    name = name' ∧ value = value' := by
  have same := captures.written.split.symm.trans captures'.written.split
  have before_length : before.length = before'.length :=
    Nat.le_antisymm (captures.leftmost _ _ _ _ captures'.written)
      (captures'.leftmost _ _ _ _ captures.written)
  obtain ⟨rfl, written⟩ := List.append_inj same before_length
  have name_length : name.length = name'.length :=
    Nat.le_antisymm (captures.name_shortest _ _ _ captures'.written)
      (captures'.name_shortest _ _ _ captures.written)
  obtain ⟨rfl, rest⟩ := List.append_inj (List.append_cancel_left written) name_length
  have value_length : value.length = value'.length :=
    Nat.le_antisymm (captures.value_shortest _ _ captures'.written)
      (captures'.value_shortest _ _ captures.written)
  obtain ⟨rfl, -⟩ := List.append_inj (List.tail_eq_of_cons_eq rest) value_length
  exact ⟨rfl, rfl⟩

/-- The captured name holds an equals sign at most as its first character, or it would end before that. -/
theorem Captures.equals_not_mem_tail (captures : dialect.Captures command before name value after) :
    '=' ∉ name.tail := by
  obtain ⟨⟨split, name_ne, name_plain, value_ne, value_plain⟩, -, name_shortest, -⟩ := captures
  cases name with
  | nil => exact absurd rfl name_ne
  | cons c tail =>
      intro mem
      obtain ⟨first, last, rfl⟩ := List.append_of_mem mem
      have shorter : dialect.WritesAt command before (c :: first) (last ++ '=' :: value) after := by
        refine ⟨?_, by simp, ?_, by simp, ?_⟩
        · simpa using split
        · intro newline
          apply name_plain
          simp only [List.mem_cons, List.mem_append] at newline ⊢
          tauto
        · intro newline
          simp only [List.mem_cons, List.mem_append] at newline name_plain
          tauto
      have length := name_shortest _ _ _ shorter
      simp only [List.length_cons, List.length_append] at length
      omega

/-- The captured value holds what ends it at most as its start, or it would end before that. -/
theorem Captures.ending_not_infix_tail (captures : dialect.Captures command before name value after) :
    ¬dialect.ending <:+: value.tail := by
  obtain ⟨⟨split, name_ne, name_plain, value_ne, value_plain⟩, -, -, value_shortest⟩ := captures
  cases value with
  | nil => exact absurd rfl value_ne
  | cons c tail =>
      rintro ⟨first, last, rfl⟩
      have shorter :
          dialect.WritesAt command before name (c :: first) (last ++ (dialect.ending ++ after)) := by
        refine ⟨?_, name_ne, name_plain, by simp, ?_⟩
        · simpa using split
        · intro newline
          apply value_plain
          simp only [List.mem_cons, List.mem_append] at newline ⊢
          tauto
      have length := value_shortest _ _ shorter
      have ending_pos : 0 < dialect.ending.length := by
        cases dialect with
        | standard => decide +kernel
        | powershell => decide +kernel
      simp only [List.length_cons, List.length_append] at length
      omega

/-! ## What the matchers find -/

/-- What is read at the start of a text is written there. -/
theorem writesAt_of_assignment? (read : dialect.assignment? rest = some (name, value)) :
    ∃ after, dialect.WritesAt rest [] name value after := by
  simp only [assignment?, Option.bind_eq_bind, Option.bind_eq_some_iff, Option.pure_def,
    Option.some.injEq, Prod.exists, Prod.mk.injEq] at read
  obtain ⟨s, hopening, name', value', after, hrun, rfl, rfl⟩ := read
  obtain ⟨name_ne, name_plain, s', rfl, hnext, -⟩ := exists_of_shortestRun_eq_some hrun
  obtain ⟨s'', hequals, hvalue⟩ := Option.bind_eq_some_iff.1 hnext
  obtain ⟨value_ne, value_plain, s₃, rfl, hending, -⟩ := exists_of_shortestRun_eq_some hvalue
  rw [literal_eq_some_iff] at hopening hequals hending
  refine ⟨after, ?_, name_ne, name_plain, value_ne, value_plain⟩
  rw [hopening, hequals, hending]
  rfl

/-- What is written at the start of a text is read, unless something shorter is. -/
theorem WritesAt.exists_assignment? (written : dialect.WritesAt rest [] name value after) :
    ∃ name' value', dialect.assignment? rest = some (name', value') ∧ name'.length ≤ name.length ∧
      (name' = name → value'.length ≤ value.length) := by
  obtain ⟨split, name_ne, name_plain, value_ne, value_plain⟩ := written
  obtain ⟨value', more, s, hvalue, -, hrun⟩ :=
    exists_shortestRun value_ne value_plain (literal_append dialect.ending after)
  let next (s : List Char) := (literal ['='] s).bind (shortestRun (literal dialect.ending))
  have hnext : next ('=' :: (value ++ (dialect.ending ++ after))) = some (value', s) := hrun
  obtain ⟨name', more', b, hname, hb, hfound⟩ := exists_shortestRun name_ne name_plain hnext
  refine ⟨name', b.1, ?_, ?_, ?_⟩
  · rw [split, List.nil_append, assignment?, literal_append]
    show (shortestRun next _).bind (fun found => some (found.1, found.2.1)) = some (name', b.1)
    rw [hfound]
    rfl
  · rw [hname, List.length_append]
    omega
  · intro same
    -- the name is not shortened, so the value is the one that is found after it
    have nothing_more : more' = [] := by
      rw [same] at hname
      exact List.append_right_eq_self.1 hname.symm
    rw [nothing_more] at hb
    obtain rfl : (value', s) = b := Option.some.inj (hnext.symm.trans hb)
    show value'.length ≤ value.length
    rw [hvalue, List.length_append]
    omega

/-- What is read at the leftmost place is captured. -/
theorem captures_of_firstMatch (found : firstMatch dialect.assignment? command = some (name, value)) :
    ∃ before after, dialect.Captures command before name value after := by
  obtain ⟨before, rest, rfl, read, nowhere⟩ := exists_split_of_firstMatch_eq_some found
  obtain ⟨after, written⟩ := writesAt_of_assignment? read
  refine ⟨before, after, writesAt_append_iff.2 written, ?leftmost, ?name, ?value⟩
  case leftmost =>
    intro before' name' value' after' written'
    by_contra further
    -- what stands further left would have been read first
    have shorter : before' <+: before := by
      have whole : before' <+: before ++ rest := ⟨_, written'.split.symm⟩
      exact List.prefix_of_prefix_length_le whole (List.prefix_append before rest) (by omega)
    obtain ⟨last, rfl⟩ := shorter
    have last_ne : last ≠ [] := by
      rintro rfl
      simp at further
    rw [List.append_assoc, writesAt_append_iff] at written'
    obtain ⟨_, _, read', -⟩ := written'.exists_assignment?
    rw [nowhere before' last rfl last_ne] at read'
    cases read'
  case name =>
    intro name' value' after' written'
    obtain ⟨_, _, read', name_le, -⟩ := (writesAt_append_iff.1 written').exists_assignment?
    rw [read] at read'
    cases read'
    exact name_le
  case value =>
    intro value' after' written'
    obtain ⟨_, _, read', -, value_le⟩ := (writesAt_append_iff.1 written').exists_assignment?
    rw [read] at read'
    cases read'
    exact value_le rfl

/-- Nothing is read exactly if no output is written anywhere. -/
theorem firstMatch_assignment?_eq_none_iff :
    firstMatch dialect.assignment? command = none ↔
      ∀ before name value after, ¬dialect.WritesAt command before name value after := by
  constructor
  · intro nothing before name value after written
    obtain rfl := written.split
    obtain ⟨_, _, read, -⟩ := (writesAt_append_iff.1 written).exists_assignment?
    rw [firstMatch_eq_none_iff.1 nothing _ (List.suffix_append before _)] at read
    cases read
  · intro nowhere
    rw [firstMatch_eq_none_iff]
    rintro rest ⟨before, rfl⟩
    rw [Option.eq_none_iff_forall_ne_some]
    rintro ⟨name, value⟩ read
    obtain ⟨after, written⟩ := writesAt_of_assignment? read
    exact nowhere before name value after (writesAt_append_iff.2 written)

/-- An output is found exactly if it is the one that is captured. -/
theorem captures_iff :
    firstMatch dialect.assignment? command = some (name, value) ↔
      ∃ before after, dialect.Captures command before name value after := by
  constructor
  · exact captures_of_firstMatch
  · rintro ⟨before, after, captures⟩
    cases found : firstMatch dialect.assignment? command with
    | none =>
        have nowhere := firstMatch_assignment?_eq_none_iff.1 found
        exact absurd captures.written (nowhere before name value after)
    | some output =>
        obtain ⟨before', after', captures'⟩ := captures_of_firstMatch found
        obtain ⟨rfl, rfl⟩ := captures.unique captures'
        rfl

end Dialect

/-! ## Taking a command -/

/-- What becomes of a command by the plain rule: the captured output is recorded and nothing is executed,
or, if no output is written anywhere in the command, it is executed. -/
inductive TakenPlainly (execute : Executor) (id : Option String) (command : String) (m : Mocks) :
    Except Fault Unit × Mocks → Prop where
  | recorded {before after : List Char} (name value : String)
      (captures : Dialect.standard.Captures command.toList before name.toList value.toList after) :
      TakenPlainly execute id command m (.ok (), m.setOutput (outputKey id name) value)
  | executed (nowhere : ∀ before name value after,
        ¬Dialect.standard.WritesAt command.toList before name value after) :
      TakenPlainly execute id command m
        ((execute command m).1.map fun _ => (), (execute command m).2)

/-- The plain rule leaves no choice. -/
theorem TakenPlainly.unique {execute : Executor} {id : Option String} {command : String} {m : Mocks}
    {outcome outcome' : Except Fault Unit × Mocks} (taken : TakenPlainly execute id command m outcome)
    (taken' : TakenPlainly execute id command m outcome') : outcome = outcome' := by
  cases taken with
  | recorded name value captures =>
      cases taken' with
      | recorded name' value' captures' =>
          obtain ⟨same_name, same_value⟩ := captures.unique captures'
          rw [String.toList_inj.1 same_name, String.toList_inj.1 same_value]
      | executed nowhere => exact absurd captures.written (nowhere _ _ _ _)
  | executed nowhere =>
      cases taken' with
      | recorded name value captures => exact absurd captures.written (nowhere _ _ _ _)
      | executed => rfl

/-- A command that writes an output passes the question whether it mentions one, so asking it makes no
difference. -/
theorem takenPlainly_handle (execute : Executor) (id : Option String) (command : String) (m : Mocks) :
    TakenPlainly execute id command m (m.handle execute .standard id command) := by
  rw [Mocks.handle, Mocks.perform]
  cases found : firstMatch Dialect.standard.assignment? command.toList with
  | none =>
      have nowhere := Dialect.firstMatch_assignment?_eq_none_iff.1 found
      have unwritten : (if Dialect.mayWrite command then Dialect.standard.written? command else none) =
          none := by
        rw [Dialect.written?, found]
        exact ite_self none
      rw [unwritten]
      exact .executed nowhere
  | some output =>
      obtain ⟨before, after, captures⟩ := Dialect.captures_of_firstMatch found
      have written : (if Dialect.mayWrite command then Dialect.standard.written? command else none) =
          some (String.ofList output.1, String.ofList output.2) := by
        rw [if_pos captures.written.mayWrite, Dialect.written?, found]
        rfl
      rw [written]
      have captures' : Dialect.standard.Captures command.toList before (String.ofList output.1).toList
          (String.ofList output.2).toList after := by
        rwa [String.toList_ofList, String.toList_ofList]
      exact .recorded _ _ captures'

/-- **Commands are taken by the plain rule.** Under all shells but PowerShell, whatever executing a command
does and whatever the mocks are: a command that writes an output has the captured one recorded under the id
of the step and is not executed, and any other command is executed, with what that gives. The captured
output is the leftmost one, with the shortest name and after that the shortest value. So its name is not
empty and holds an equals sign at most as its first character, and its value is not empty and holds what
ends a written output at most as its start. -/
theorem handle_iff_takenPlainly (execute : Executor) (id : Option String) (command : String)
    (m : Mocks) :
    (∀ outcome, m.handle execute .standard id command = outcome ↔
      TakenPlainly execute id command m outcome) ∧
    ∀ before name value after,
      Dialect.standard.Captures command.toList before name value after →
        name ≠ [] ∧ '=' ∉ name.tail ∧ value ≠ [] ∧
          ¬"\" >> $GITHUB_OUTPUT".toList <:+: value.tail := by
  have taken := takenPlainly_handle execute id command m
  constructor
  · intro outcome
    constructor
    · rintro rfl
      exact taken
    · intro taken'
      exact taken.unique taken'
  · intro before name value after captures
    exact ⟨captures.written.name_ne, captures.equals_not_mem_tail, captures.written.value_ne,
      captures.ending_not_infix_tail⟩

/-- A command in which the words of a written output stand in several places and orders. -/
def crowdedCommand : String :=
  "GITHUB_OUTPUT echo \"a\" echo \"=b=c\" >> $GITHUB_OUTPUT echo \"d=e\" >> $GITHUB_OUTPUT"

theorem handle_iff_takenPlainly_crowded :
    ∃ before after name value,
      Dialect.standard.Captures crowdedCommand.toList before name.toList value.toList after ∧
        name = "a\" echo \"" ∧ value = "b=c" ∧ '=' ∉ name.toList.tail ∧
        ∀ execute m, Mocks.handle execute .standard (some "s") crowdedCommand m =
          (.ok (), m.setOutput "steps.s.outputs.a\" echo \"" "b=c") := by
  have found : firstMatch Dialect.standard.assignment? crowdedCommand.toList =
      some ("a\" echo \"".toList, "b=c".toList) := by decide +kernel
  obtain ⟨before, after, captures⟩ := Dialect.captures_iff.1 found
  refine ⟨before, after, _, _, captures, rfl, rfl, ?_, ?_⟩
  · have shape := (handle_iff_takenPlainly (Mocks.dispatch 0) none crowdedCommand {}).2 _ _ _ _ captures
    exact shape.2.1
  · intro execute m
    have plain := (handle_iff_takenPlainly execute (some "s") crowdedCommand m).1
    exact (plain _).2 (.recorded _ _ captures)

end ActionRehearsal
