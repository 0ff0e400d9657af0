import ActionRehearsal.Text.Search
import ActionRehearsal.Value.Display
/-!
# Placeholders

A placeholder of an input stands in a script as its name after `inputs.`, between two opening and
two closing braces after a dollar sign, with blank characters allowed inside the braces.
`interpolate` replaces the placeholders of one input after the other, in order. A value is
inserted as it is, and what it inserts is looked at again for the inputs after it.
-/

set_option autoImplicit false

namespace ActionRehearsal

open ActionRehearsal.Text

namespace Placeholder

/-- How a placeholder starts. -/
def opening : List Char := ['$', '{', '{']

/-- What comes before the name of the input. -/
def nameMark : List Char := "inputs.".toList

/-- How a placeholder ends. -/
def closing : List Char := ['}', '}']

/-- What follows a placeholder of the input `key` at the start of a text. -/
def after? (key s : List Char) : Option (List Char) :=
  (literal opening s).bind fun s =>
    (literal nameMark (skipBlank s)).bind fun s =>
      (literal key s).bind fun s => literal closing (skipBlank s)

/-- What follows a literal is shorter by its length. -/
theorem length_of_literal {expected s rest : List Char} (h : literal expected s = some rest) :
    s.length = expected.length + rest.length := by
  induction expected generalizing s with
  | nil => simp_all [literal]
  | cons e expected ih =>
    cases s with
    | nil => simp [literal] at h
    | cons c s =>
      simp only [literal] at h
      split at h
      · have := ih h
        simp only [List.length_cons]
        omega
      · simp at h

/-- Passing over blank characters makes no text longer. -/
theorem length_skipBlank (s : List Char) : (skipBlank s).length ≤ s.length := by
  unfold skipBlank
  exact (List.dropWhile_sublist isBlank).length_le

/-- What follows a placeholder is shorter than the text. -/
theorem length_after {key s rest : List Char} (h : after? key s = some rest) :
    rest.length < s.length := by
  simp only [after?, Option.bind_eq_some_iff] at h
  obtain ⟨s₁, h₁, s₂, h₂, s₃, h₃, h₄⟩ := h
  have a := length_of_literal h₁
  have b := length_of_literal h₂
  have c := length_of_literal h₃
  have d := length_of_literal h₄
  have e := length_skipBlank s₁
  have f := length_skipBlank s₃
  have g : opening.length = 3 := rfl
  omega

/-- The text with every placeholder of the input `key` replaced by `value`, from the left. -/
def replace (key value : List Char) (s : List Char) : List Char :=
  match _h : after? key s with
  | some rest => value ++ replace key value rest
  | none => match s with
    | [] => []
    | c :: s => c :: replace key value s
termination_by s.length
decreasing_by
  · exact length_after ‹_›
  · simp

end Placeholder

/-- The script with the placeholders of all inputs replaced, one input after the other. -/
def interpolate (inputs : List (String × String)) (script : String) : String :=
  String.ofList (inputs.foldl
    (fun s input => Placeholder.replace input.1.toList input.2.toList s) script.toList)

/-- The texts of the names and values of inputs. -/
def inputTexts (inputs : Mapping) : List (String × String) :=
  inputs.map fun input => (input.1.display, input.2.display)

end ActionRehearsal
