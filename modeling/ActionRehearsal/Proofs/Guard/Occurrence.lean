import ActionRehearsal.Placeholder
import ActionRehearsal.Proofs.Guard

/-!
# Guards that hold a comparison somewhere

A comparison is looked for at every place of a guard. `HoldsComparison` says that one is written
somewhere, by the parts it is made of and without the matchers, and the main statement,
`guardHolds_always_iff`, is that a guard holds whatever is recorded exactly if none is.

So it is not only a guard that is one comparison and nothing else (`IsLoneComparison`) that may fail
to hold: `negated_comparison_decides` gives one that negates a comparison.
-/

set_option autoImplicit false

namespace ActionRehearsal

open ActionRehearsal.Text

namespace Comparison

/-- Whether a text can be taken by a run: it is not empty and holds no newline. -/
def OnOneLine (s : List Char) : Prop := s ≠ [] ∧ '\n' ∉ s

/-- Whether a comparison is written at the start of a text. -/
def StartsWith (s : List Char) : Prop :=
  ∃ id name before between value after, OnOneLine id ∧ OnOneLine name ∧ OnOneLine value ∧
    (∀ c ∈ before, isBlank c = true) ∧ (∀ c ∈ between, isBlank c = true) ∧
    s = opening ++ (id ++ (middle ++ (name ++ equalsQuoted before between value after)))

end Comparison

open Comparison

/-- Whether a comparison is written anywhere in a text. -/
def HoldsComparison (s : List Char) : Prop := ∃ start rest, s = start ++ rest ∧ StartsWith rest

namespace Comparison

/-! ## Whatever is written is read -/

/-- What is written after a name is read, if perhaps with a shorter value. -/
theorem exists_expected? {before between value after : List Char}
    (hbefore : ∀ c ∈ before, isBlank c = true) (hbetween : ∀ c ∈ between, isBlank c = true)
    (hvalue : OnOneLine value) :
    ∃ found, expected? (equalsQuoted before between value after) = some found := by
  -- the value ends at the first quote after its first character
  obtain ⟨found, more, rest, rfl, -, hrun⟩ :=
    exists_shortestRun hvalue.1 hvalue.2 (literal_append ['\''] after)
  obtain ⟨ne, newline, quote, e⟩ := shortestRun_char_iff.1 hrun
  refine ⟨found, expected?_eq_some_iff.2 ?_⟩
  refine ⟨before, between, rest, hbefore, hbetween, ?_, ne, newline, quote⟩
  rw [equalsQuoted, equalsQuoted, ← e]
  rfl

/-- A comparison that is read stands there as its parts, in order. -/
theorem written_of_read? {s : List Char} {c : Comparison} (h : read? s = some c) :
    OnOneLine c.id ∧ OnOneLine c.name ∧ OnOneLine c.expected ∧
      ∃ before between after, (∀ d ∈ before, isBlank d = true) ∧ (∀ d ∈ between, isBlank d = true) ∧
        s = opening ++ (c.id ++ (middle ++ (c.name ++ equalsQuoted before between c.expected after))) := by
  simp only [read?, Option.bind_eq_bind, Option.bind_eq_some_iff, Option.pure_def,
    Option.some.injEq, Prod.exists] at h
  obtain ⟨s₁, hopening, id, name, value, hrun, rfl⟩ := h
  obtain ⟨id_ne, id_newline, s₂, rfl, hnext, -⟩ := exists_of_shortestRun_eq_some hrun
  obtain ⟨s₃, hmiddle, hname⟩ := Option.bind_eq_some_iff.1 hnext
  obtain ⟨name_ne, name_newline, s₄, rfl, hexpected, -⟩ := exists_of_shortestRun_eq_some hname
  obtain ⟨before, between, after, hbefore, hbetween, rfl, value_ne, value_newline, -⟩ :=
    expected?_eq_some_iff.1 hexpected
  rw [literal_eq_some_iff.1 hmiddle] at hopening
  exact ⟨⟨id_ne, id_newline⟩, ⟨name_ne, name_newline⟩, ⟨value_ne, value_newline⟩, before, between,
    after, hbefore, hbetween, literal_eq_some_iff.1 hopening⟩

/-- A comparison is read exactly where one is written. -/
theorem exists_read?_iff {s : List Char} : (∃ c, read? s = some c) ↔ StartsWith s := by
  constructor
  · rintro ⟨c, h⟩
    obtain ⟨hid, hname, hvalue, before, between, after, hbefore, hbetween, e⟩ := written_of_read? h
    exact ⟨c.id, c.name, before, between, c.expected, after, hid, hname, hvalue, hbefore, hbetween, e⟩
  · rintro ⟨id, name, before, between, value, after, hid, hname, hvalue, hbefore, hbetween, rfl⟩
    let next := fun s => (literal middle s).bind (shortestRun expected?)
    obtain ⟨found, hfound⟩ : ∃ found, expected? (equalsQuoted before between value after) =
        some found := exists_expected? hbefore hbetween hvalue
    obtain ⟨name', -, value', -, -, hname'⟩ := exists_shortestRun hname.1 hname.2 hfound
    have hnext : next (middle ++ (name ++ equalsQuoted before between value after)) =
        some (name', value') := by
      simp only [next, literal_append, Option.bind_some]
      exact hname'
    obtain ⟨id', -, rest', -, -, hid'⟩ := exists_shortestRun hid.1 hid.2 hnext
    refine ⟨⟨id', rest'.1, rest'.2⟩, ?_⟩
    rw [read?, literal_append]
    exact congrArg (Option.bind · _) hid'

/-- So no comparison is found in a guard exactly if none is written in it. -/
theorem first?_eq_none_iff {guard : String} :
    first? guard = none ↔ ¬HoldsComparison guard.toList := by
  rw [first?, firstMatch_eq_none_iff]
  constructor
  · rintro nowhere ⟨start, rest, e, written⟩
    obtain ⟨c, read⟩ := exists_read?_iff.2 written
    have absent := nowhere rest ⟨start, e.symm⟩
    rw [read] at absent
    cases absent
  · rintro absent rest ⟨start, e⟩
    rw [Option.eq_none_iff_forall_ne_some]
    exact fun c read => absent ⟨start, rest, e.symm, exists_read?_iff.1 ⟨c, read⟩⟩

end Comparison

/-! ## Guards that always hold -/

/-- **A guard holds whatever is recorded exactly if no comparison is written anywhere in it.** If
one is, it does not hold as long as nothing is recorded. -/
theorem guardHolds_always_iff (guard : String) :
    (∀ outputs, guardHolds (some guard) outputs = true) ↔ ¬HoldsComparison guard.toList := by
  rw [← first?_eq_none_iff]
  have hgiven : (firstGiven [some guard]).bind first? = first? guard := by
    by_cases empty : guard = ""
    · subst empty
      decide +kernel
    · rw [firstGiven, if_neg empty, Option.bind_some]
  simp only [guardHolds, hgiven]
  cases found : first? guard with
  | none => exact ⟨fun _ => rfl, fun _ _ => rfl⟩
  | some c =>
      refine ⟨fun always => ?_, fun absent => by cases absent⟩
      have holds : c.holds {} = true := always {}
      cases holds

/-! ## Guards that are one comparison -/

/-- A guard without the blank text around it and without the braces of an expression, if it has
them. -/
def guardBody (guard : List Char) : List Char :=
  let body := trim guard
  if Placeholder.opening.isPrefixOf body && Placeholder.closing.isSuffixOf body then
    trim ((body.drop Placeholder.opening.length).dropLast.dropLast)
  else body

/-- The quotes and the characters of operators. -/
def marks : List Char := ['\'', '"', '=', '!', '<', '>', '&', '|', '(', ')']

/-- Whether a character may stand in an id or a name: it is not blank, no quote and no part of an
operator. -/
def isPlain (c : Char) : Bool := !isBlank c && !marks.contains c

/-- Whether a guard is one comparison and nothing else. -/
def IsLoneComparison (guard : List Char) : Prop :=
  ∃ id name before between value, id ≠ [] ∧ name ≠ [] ∧ (∀ c ∈ id ++ name, isPlain c = true) ∧
    (∀ c ∈ before, isBlank c = true) ∧ (∀ c ∈ between, isBlank c = true) ∧ '\'' ∉ value ∧
    guardBody guard = opening ++ (id ++ (middle ++ (name ++ equalsQuoted before between value [])))

/-- A guard that negates a comparison is not one comparison, but the comparison in it decides. -/
theorem negated_comparison_decides :
    ¬∀ guard : String, ¬IsLoneComparison guard.toList →
      ∀ outputs, guardHolds (some guard) outputs = true := by
  intro claim
  have not_lone : ¬IsLoneComparison "!(steps.a.outputs.b == 'c')".toList := by
    rintro ⟨id, name, before, between, value, -, -, -, -, -, -, e⟩
    -- a comparison does not start with an exclamation mark
    have hbody : guardBody "!(steps.a.outputs.b == 'c')".toList =
        '!' :: "(steps.a.outputs.b == 'c')".toList := by decide +kernel
    have hopening : opening = 's' :: "teps.".toList := by decide +kernel
    rw [hbody, hopening] at e
    exact absurd (List.head_eq_of_cons_eq e) (by decide)
  have fails : guardHolds (some "!(steps.a.outputs.b == 'c')") {} = false := by decide +kernel
  exact absurd ((claim _ not_lone {}).symm.trans fails) (by decide)

end ActionRehearsal
