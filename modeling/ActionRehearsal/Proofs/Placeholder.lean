import ActionRehearsal.Placeholder
import ActionRehearsal.Proofs.Text.Search

/-!
# Scripts and placeholders

`Mentions` says that a placeholder of an input is written somewhere in a text, and
`after?_eq_some_iff` that a placeholder is found exactly where one is written. Replacing follows the
two equations `replace_of_after` and `replace_cons`, and facts about it are proved along them
(`replace_induction`).

A text that does not mention an input is left as it is by it (`replace_eq_self`), and a script in
which no placeholder starts by all inputs (`interpolate_eq_self`). Inputs of other values than texts are put
in by their texts (`toList_interpolate_inputTexts`).
-/

set_option autoImplicit false

namespace ActionRehearsal

open ActionRehearsal.Text

namespace Placeholder

/-- The text of a placeholder, with blank text around the name of the input. -/
def spelled (key before after : List Char) : List Char :=
  opening ++ (before ++ (nameMark ++ (key ++ (after ++ closing))))

/-- Whether a placeholder of an input is written somewhere in a text. -/
def Mentions (key s : List Char) : Prop :=
  ∃ start before after rest, (∀ c ∈ before, isBlank c = true) ∧ (∀ c ∈ after, isBlank c = true) ∧
    s = start ++ (spelled key before after ++ rest)

/-! ## Finding a placeholder -/

theorem skipBlank_nameMark (s : List Char) : skipBlank (nameMark ++ s) = nameMark ++ s := by
  have hmark : nameMark = 'i' :: "nputs.".toList := by decide +kernel
  rw [hmark]
  exact skipBlank_cons (by decide) _

/-- A placeholder is found where one is written, and nowhere else. -/
theorem after?_eq_some_iff {key s rest : List Char} :
    after? key s = some rest ↔
      ∃ before after, (∀ c ∈ before, isBlank c = true) ∧ (∀ c ∈ after, isBlank c = true) ∧
        s = spelled key before after ++ rest := by
  constructor
  · intro h
    simp only [after?, Option.bind_eq_some_iff] at h
    obtain ⟨s₁, hopening, s₂, hmark, s₃, hkey, hclosing⟩ := h
    obtain ⟨before, hs₁, hbefore⟩ := exists_eq_append_skipBlank s₁
    obtain ⟨after, hs₃, hafter⟩ := exists_eq_append_skipBlank s₃
    rw [literal_eq_some_iff.1 hclosing] at hs₃
    rw [literal_eq_some_iff.1 hmark, literal_eq_some_iff.1 hkey, hs₃] at hs₁
    refine ⟨before, after, hbefore, hafter, ?_⟩
    rw [literal_eq_some_iff.1 hopening, hs₁]
    simp [spelled]
  · rintro ⟨before, after, hbefore, hafter, rfl⟩
    have hskip : ∀ s, skipBlank (closing ++ s) = closing ++ s := fun s =>
      skipBlank_cons (by decide) _
    simp [after?, spelled, skipBlank_append hbefore, skipBlank_append hafter,
      skipBlank_nameMark, hskip]

/-- A text mentions an input exactly if a placeholder is found at one of its places. -/
theorem mentions_iff {key s : List Char} :
    Mentions key s ↔ ∃ rest ∈ s.tails, (after? key rest).isSome = true := by
  constructor
  · rintro ⟨start, before, after, rest, hbefore, hafter, rfl⟩
    refine ⟨_, (List.mem_tails _ _).2 (List.suffix_append start _), ?_⟩
    rw [after?_eq_some_iff.2 ⟨before, after, hbefore, hafter, rfl⟩]
    rfl
  · rintro ⟨t, ht, found⟩
    obtain ⟨start, rfl⟩ := (List.mem_tails _ _).1 ht
    obtain ⟨rest, found⟩ := Option.isSome_iff_exists.1 found
    obtain ⟨before, after, hbefore, hafter, rfl⟩ := after?_eq_some_iff.1 found
    exact ⟨start, before, after, rest, hbefore, hafter, rfl⟩

instance (key s : List Char) : Decidable (Mentions key s) := decidable_of_iff _ mentions_iff.symm

/-- A text mentions an input at its start or after its first character. -/
theorem mentions_cons_iff {key s : List Char} {c : Char} :
    Mentions key (c :: s) ↔ (after? key (c :: s)).isSome = true ∨ Mentions key s := by
  simp only [mentions_iff, List.tails_cons, List.mem_cons, exists_eq_or_imp]

theorem not_mentions_nil (key : List Char) : ¬Mentions key [] := by
  simp [mentions_iff, after?, literal, opening]

/-- A mentioned input is mentioned with the opening of a placeholder. -/
theorem Mentions.opening_infix {key s : List Char} (h : Mentions key s) : opening <:+: s := by
  obtain ⟨start, before, after, rest, -, -, rfl⟩ := h
  refine ⟨start, before ++ (nameMark ++ (key ++ (after ++ closing))) ++ rest, ?_⟩
  simp [spelled]

/-! ## Replacing -/

/-- A placeholder at the start is replaced by the value. -/
theorem replace_of_after {key s rest : List Char} (h : after? key s = some rest)
    (value : List Char) : replace key value s = value ++ replace key value rest := by
  rw [replace]
  split
  · simp_all
  · simp_all

/-- A character at which no placeholder starts is kept. -/
theorem replace_cons {key s : List Char} {c : Char} (h : after? key (c :: s) = none)
    (value : List Char) : replace key value (c :: s) = c :: replace key value s := by
  rw [replace]
  split
  · simp_all
  · rfl

theorem replace_nil (key value : List Char) : replace key value [] = [] := by
  rw [replace]
  rfl

/-- What holds of the empty text, passes over a placeholder and passes over a character at which
none starts, holds of every text. -/
theorem replace_induction (key : List Char) {motive : List Char → Prop} (nil : motive [])
    (found : ∀ s rest, after? key s = some rest → motive rest → motive s)
    (kept : ∀ c s, after? key (c :: s) = none → motive s → motive (c :: s)) (s : List Char) :
    motive s := by
  induction hn : s.length using Nat.strong_induction_on generalizing s with
  | _ n ih =>
      cases h : after? key s with
      | some rest => exact found s rest h (ih rest.length (hn ▸ length_after h) rest rfl)
      | none =>
          cases s with
          | nil => exact nil
          | cons c s => exact kept c s h (ih s.length (by simp [← hn]) s rfl)

/-- A text that does not mention an input is left as it is. -/
theorem replace_eq_self {key s : List Char} (h : ¬Mentions key s) (value : List Char) :
    replace key value s = s := by
  induction s with
  | nil => exact replace_nil key value
  | cons c s ih =>
      rw [mentions_cons_iff, not_or, Bool.not_eq_true, Option.isSome_eq_false_iff,
        Option.isNone_iff_eq_none] at h
      rw [replace_cons h.1, ih h.2]

end Placeholder

/-- A script in which no placeholder starts is left as it is. -/
theorem interpolate_eq_self {script : String} (h : ¬Placeholder.opening <:+: script.toList)
    (inputs : List (String × String)) : interpolate inputs script = script := by
  have hfold : inputs.foldl
      (fun s input => Placeholder.replace input.1.toList input.2.toList s) script.toList =
        script.toList := by
    induction inputs with
    | nil => rfl
    | cons input inputs ih =>
        rw [List.foldl_cons, Placeholder.replace_eq_self fun m => h m.opening_infix, ih]
  rw [interpolate, hfold, String.ofList_toList]

/-! ## Values as inputs -/

/-- What a step takes of inputs are their texts: for each entry of a mapping in turn, the placeholders of
the text of its name are replaced by the text of its value, whatever kinds of values they are. -/
theorem toList_interpolate_inputTexts (inputs : Mapping) (script : String) :
    (interpolate (inputTexts inputs) script).toList =
      inputs.foldl (fun s input =>
        Placeholder.replace input.1.display.toList input.2.display.toList s) script.toList := by
  rw [interpolate, String.toList_ofList, inputTexts, List.foldl_map]

/-- Texts are their own texts, so every list of pairs of texts is what a step takes of some mapping. -/
theorem inputTexts_of_texts (pairs : List (String × String)) :
    inputTexts (pairs.map fun input => (.text input.1, .text input.2)) = pairs := by
  rw [inputTexts, List.map_map]
  exact List.map_id pairs

end ActionRehearsal
