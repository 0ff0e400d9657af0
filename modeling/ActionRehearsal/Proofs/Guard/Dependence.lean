import ActionRehearsal.Proofs.Guard.Occurrence

/-!
# What a guard depends on

A guard that does not hold whatever is recorded is decided by one output: `DecidedBy` says that it
holds exactly if a place has a value, and that both the place and the value are spelled in the guard
itself. The main statement, `guardHolds_depends_on_one`, is that every guard is of one of these two
kinds, with what follows: what is recorded elsewhere does not count, and guards on the same place
exclude each other if their values differ.

The place is put together from two parts that are read apart. It is text of the guard all the same,
since the parts stand in it with what is put between them (`Comparison.key_append`).
-/

set_option autoImplicit false

namespace ActionRehearsal

open ActionRehearsal.Text

/-- Whether a guard is decided by one output: it holds exactly if the output at a place has a value.
The place is text of the guard, starts as all places do and has a name; the value stands in the guard
in single quotes. -/
structure DecidedBy (guard place value : String) : Prop where
  place_written : place.toList <:+: guard.toList
  place_start : "steps.".toList <+: place.toList
  place_name : ".outputs.".toList <:+: place.toList
  value_ne : value ≠ ""
  value_quoted : ("'" ++ value ++ "'").toList <:+: guard.toList
  holds_iff : ∀ outputs, guardHolds (some guard) outputs = true ↔ outputs.get? place = some value

namespace Comparison

/-- The first comparison of a guard decides, and the empty guard has none. -/
theorem guardHolds_some (guard : String) (outputs : Table String String) :
    guardHolds (some guard) outputs = (first? guard).all fun c => c.holds outputs := by
  by_cases empty : guard = ""
  · subst empty
    have nothing : first? "" = none := by decide +kernel
    rw [nothing]
    rfl
  · have given : firstGiven [some guard] = some guard := if_neg empty
    rw [guardHolds, given, Option.bind_some]
    cases first? guard with
    | none => rfl
    | some c => rfl

/-- A comparison that is found stands in the guard: its place, and after that its value in quotes. -/
theorem key_append {guard : String} {c : Comparison} (found : first? guard = some c) :
    OnOneLine c.expected ∧ ∃ start before between after,
      guard.toList = start ++ (c.key.toList ++ equalsQuoted before between c.expected after) := by
  obtain ⟨rest, ⟨start, e⟩, read⟩ := exists_of_firstMatch_eq_some found
  obtain ⟨-, -, value, before, between, after, -, -, rfl⟩ := written_of_read? read
  refine ⟨value, start, before, between, after, ?_⟩
  rw [← e, toList_key]
  simp only [List.append_assoc]

/-- It decides the guard. -/
theorem decidedBy {guard : String} {c : Comparison} (found : first? guard = some c) :
    DecidedBy guard c.key (String.ofList c.expected) := by
  obtain ⟨⟨value_ne, -⟩, start, before, between, after, written⟩ := key_append found
  refine ⟨⟨start, equalsQuoted before between c.expected after, ?_⟩, ?_, ?_, ?_, ?_, ?_⟩
  · rw [written, List.append_assoc]
  · exact ⟨c.id ++ (middle ++ c.name), (toList_key c).symm⟩
  · refine ⟨opening ++ c.id, c.name, ?_⟩
    rw [toList_key, List.append_assoc, List.append_assoc]
    rfl
  · simpa using value_ne
  · refine ⟨start ++ (c.key.toList ++ (before ++ '=' :: '=' :: between)), after, ?_⟩
    simp [written, equalsQuoted]
  · intro outputs
    rw [guardHolds_some, found, Option.all_some, holds, beq_iff_eq]

end Comparison

/-- A guard decided by the output at a place looks nowhere else. -/
theorem DecidedBy.guardHolds_congr {guard place value : String} (h : DecidedBy guard place value)
    {outputs outputs' : Table String String} (same : outputs.get? place = outputs'.get? place) :
    guardHolds (some guard) outputs = guardHolds (some guard) outputs' := by
  rw [Bool.eq_iff_iff, h.holds_iff, h.holds_iff, same]

/-- Guards that ask for different values at one place exclude each other. -/
theorem DecidedBy.value_eq {guard guard' place value value' : String}
    (h : DecidedBy guard place value) (h' : DecidedBy guard' place value')
    {outputs : Table String String} (holds : guardHolds (some guard) outputs = true)
    (holds' : guardHolds (some guard') outputs = true) : value = value' := by
  have recorded := (h.holds_iff outputs).1 holds
  have recorded' := (h'.holds_iff outputs).1 holds'
  exact Option.some.inj (recorded.symm.trans recorded')

/-- **A guard depends on at most one recorded output.** A guard holds whatever is recorded, or else it
is decided by one output, whose place and value it spells. Then the verdict is the same for outputs that
agree at this place, and two such guards with different values at one place never both hold. -/
theorem guardHolds_depends_on_one :
    (∀ guard : Option String, (∀ outputs, guardHolds guard outputs = true) ∨
      ∃ text place value, guard = some text ∧ DecidedBy text place value) ∧
    (∀ guard place value, DecidedBy guard place value →
      ∀ outputs outputs' : Table String String, outputs.get? place = outputs'.get? place →
        guardHolds (some guard) outputs = guardHolds (some guard) outputs') ∧
    ∀ guard guard' place value value', DecidedBy guard place value → DecidedBy guard' place value' →
      value ≠ value' → ∀ outputs,
        ¬(guardHolds (some guard) outputs = true ∧ guardHolds (some guard') outputs = true) := by
  refine ⟨?_, ?_, ?_⟩
  · intro guard
    cases guard with
    | none => exact .inl fun _ => rfl
    | some text =>
        cases found : Comparison.first? text with
        | none =>
            refine .inl fun outputs => ?_
            rw [Comparison.guardHolds_some, found, Option.all_none]
        | some c => exact .inr ⟨text, _, _, rfl, Comparison.decidedBy found⟩
  · exact fun guard place value h outputs outputs' same => h.guardHolds_congr same
  · rintro guard guard' place value value' h h' ne outputs ⟨holds, holds'⟩
    exact ne (h.value_eq h' holds holds')

/-- A guard that negates a comparison and one that goes on after it ask for different values at one
place. -/
theorem guardHolds_depends_on_one_probe :
    DecidedBy "!(steps.a.b.outputs.c == 'x')" "steps.a.b.outputs.c" "x" ∧
      DecidedBy "steps.a.b.outputs.c=='y'' || true" "steps.a.b.outputs.c" "y" ∧
      ∀ outputs, ¬(guardHolds (some "!(steps.a.b.outputs.c == 'x')") outputs = true ∧
        guardHolds (some "steps.a.b.outputs.c=='y'' || true") outputs = true) := by
  have negated : DecidedBy "!(steps.a.b.outputs.c == 'x')" "steps.a.b.outputs.c" "x" :=
    Comparison.decidedBy (c := ⟨"a.b".toList, "c".toList, "x".toList⟩) (by decide +kernel)
  have followed : DecidedBy "steps.a.b.outputs.c=='y'' || true" "steps.a.b.outputs.c" "y" :=
    Comparison.decidedBy (c := ⟨"a.b".toList, "c".toList, "y".toList⟩) (by decide +kernel)
  obtain ⟨-, -, exclusive⟩ := guardHolds_depends_on_one
  exact ⟨negated, followed, exclusive _ _ _ _ _ negated followed (by decide)⟩

end ActionRehearsal
