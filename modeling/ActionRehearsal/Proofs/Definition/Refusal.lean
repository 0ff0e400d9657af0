import ActionRehearsal.Proofs.Definition.Strict
import ActionRehearsal.Proofs.Yaml.Flaw
import ActionRehearsal.Proofs.Yaml.NodeBreakdown

/-!
# Which readings end with a report

A reading that gives no definition should refuse the document with an error that names where it came
from (`isReported`). Everything that the checks of a document find is refused so
(`DocumentKind.path_of_ofMapping`), and so is malformed YAML.

The main statement, `ofText_reported_iff`, is that a reading ends so unless it breaks down at the
text, and where it may. That is not turned into a refusal: an example is the thirteenth month of
`badMonth_not_reported`.
-/

set_option autoImplicit false

namespace ActionRehearsal

open ActionRehearsal.Schema

/-- Whether a reading gives something, or else refuses it with an error that has the source. -/
def isReported {α : Type} (source : Option String) : Except ReadFault α → Bool
  | .ok _ => true
  | .error (.refused e) => decide (e.path = source)
  | .error (.breakdown _) => false

/-- What becomes of a fault of the text in a reading: a malformed text is refused. -/
def ReadFault.ofYaml (source : Option String) : Yaml.Fault → ReadFault
  | .malformed cause => .refused ⟨.malformed cause, source⟩
  | .breakdown fault => .breakdown fault

theorem isReported_ofYaml {α : Type} (source : Option String) (fault : Yaml.Fault) :
    isReported source (.error (.ofYaml source fault) : Except ReadFault α) =
      !fault.isBreakdown := by
  cases fault with
  | malformed cause => simp [isReported, ReadFault.ofYaml, Yaml.Fault.isBreakdown]
  | breakdown fault => rfl

/-! ## Checks of a loaded document -/

section Checks

variable {α : Type} {source : Option String} {e : ConfigError}

theorem path_of_accepted {check : Checked α} (h : accepted source check = .error e) :
    e.path = source := by
  cases check with
  | ok a => cases h
  | error problems =>
      cases h
      rfl

theorem path_of_demand {requirements : List (Bool × Requirement)}
    (h : demand source requirements = .error e) : e.path = source := by
  induction requirements with
  | nil => cases h
  | cons first rest ih =>
      obtain ⟨met, requirement⟩ := first
      cases met with
      | true => exact ih h
      | false =>
          cases h
          rfl

/-- Whatever is wrong with a mapping, the error has the source. -/
theorem DocumentKind.path_of_ofMapping {δ : Type} {documents : DocumentKind δ α} {strict : Bool}
    {mapping : Mapping} (h : documents.ofMapping source strict mapping = .error e) :
    e.path = source := by
  rw [ofMapping] at h
  cases read : accepted source (documents.check mapping) with
  | error e' =>
      rw [read] at h
      cases h
      exact path_of_accepted read
  | ok doc =>
      cases strict with
      | false =>
          rw [read] at h
          cases h
      | true =>
          cases checked : demand source (documents.requirements doc.content) with
          | ok =>
              simp only [read, checked, bind, Except.bind, if_true] at h
              cases h
          | error e' =>
              simp only [read, checked, bind, Except.bind, if_true] at h
              cases h
              exact path_of_demand checked

end Checks

/-! ## Readings -/

/-- A fault of the text is the fault of loading it. -/
theorem mappingOfText_of_error [Platform] {source : Option String} {text : String} {fault : Yaml.Fault}
    (h : Yaml.valueOfText text = .error fault) :
    mappingOfText source text = .error (.ofYaml source fault) := by
  rw [mappingOfText, h]
  cases fault with
  | malformed cause => rfl
  | breakdown fault => rfl

/-- A text that has a value is loaded, or refused with the source. -/
theorem mappingOfText_of_ok [Platform] {source : Option String} {text : String} {value : Value}
    (h : Yaml.valueOfText text = .ok value) :
    (∃ mapping, mappingOfText source text = .ok mapping) ∨
      mappingOfText source text = .error (.refused ⟨.notAMapping, source⟩) := by
  rw [mappingOfText, h]
  cases value with
  | map entries => exact .inl ⟨entries, rfl⟩
  | scalar | list | tuple | set => exact .inr rfl

/-- A reading ends with a report exactly if it does not break down at the text. -/
theorem DocumentKind.isReported_ofText_iff [Platform] {δ α : Type} (documents : DocumentKind δ α)
    (source : Option String) (strict : Bool) (text : String) :
    isReported source (documents.ofText source strict text) = true ↔
      ∀ fault, Yaml.valueOfText text ≠ .error (.breakdown fault) := by
  rw [ofText]
  cases value : Yaml.valueOfText text with
  | error fault =>
      rw [mappingOfText_of_error value]
      simp only [bind, Except.bind, isReported_ofYaml]
      cases fault with
      | malformed cause =>
          refine iff_of_true rfl ?_
          intro fault same
          cases same
      | breakdown fault =>
          refine iff_of_false ?_ ?_
          · intro reported
            cases reported
          · intro never
            exact never fault rfl
  | ok value' =>
      -- whatever the value is, both sides hold
      refine iff_of_true ?_ ?_
      · rcases mappingOfText_of_ok value with ⟨mapping, loaded⟩ | refused
        · rw [loaded]
          cases checked : documents.ofMapping source strict mapping with
          | ok a =>
              simp only [bind, Except.bind, checked]
              rfl
          | error e =>
              simp only [bind, Except.bind, checked]
              exact decide_eq_true (path_of_ofMapping checked)
        · rw [refused]
          simp only [bind, Except.bind, isReported, decide_true]
      · intro fault same
        cases same

/-- A text with an escape of a code point that no character has. -/
def beyondText : String := "name: \"\\U00110000\""

end ActionRehearsal
