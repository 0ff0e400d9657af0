import ActionRehearsal.Proofs.Placeholder
import Mathlib.Tactic.Ring

/-!
# Which inputs have an influence

Inputs are put into a script one after the other, and what one of them inserts is looked at again
for those after it. So what counts for an input is not the script as it was given but the script
with the inputs before it put in: an input has no influence exactly if that text does not mention it
(`interpolate_ignores_iff`). A script may depend on an input that it does not mention itself
(`inserted_value_is_expanded`).

That a mentioned input does have an influence is shown by counting. The inputs after it can remove
only so many characters `x` for each dollar sign in the text (`lossPerDollar`), and a value made of
more of them is noticed.
-/

set_option autoImplicit false

namespace ActionRehearsal

open ActionRehearsal.Text Placeholder

/-! ## One input after the other -/

theorem interpolate_nil (script : String) : interpolate [] script = script :=
  String.ofList_toList

theorem interpolate_cons (input : String × String) (inputs : List (String × String))
    (script : String) :
    interpolate (input :: inputs) script =
      interpolate inputs
        (String.ofList (replace input.1.toList input.2.toList script.toList)) := by
  rw [interpolate, interpolate, List.foldl_cons, String.toList_ofList]

theorem interpolate_append (first rest : List (String × String)) (script : String) :
    interpolate (first ++ rest) script = interpolate rest (interpolate first script) := by
  rw [interpolate, interpolate, interpolate, List.foldl_append, String.toList_ofList]

/-- An input that a text does not mention can be left out. -/
theorem interpolate_cons_of_not_mentions {key script : String}
    (h : ¬Mentions key.toList script.toList) (value : String)
    (inputs : List (String × String)) :
    interpolate ((key, value) :: inputs) script = interpolate inputs script := by
  rw [interpolate_cons, replace_eq_self h, String.ofList_toList]

/-! ## What replacing can remove -/

namespace Placeholder

/-- A placeholder holds as many `x` as its name, and a dollar sign. -/
theorem count_spelled (key : List Char) {before after : List Char}
    (hbefore : ∀ c ∈ before, isBlank c = true) (hafter : ∀ c ∈ after, isBlank c = true) :
    (spelled key before after).count 'x' = key.count 'x' ∧
      1 ≤ (spelled key before after).count '$' := by
  have hblank : isBlank 'x' = false := by decide
  have absent : ∀ blank : List Char, (∀ c ∈ blank, isBlank c = true) → blank.count 'x' = 0 := by
    intro blank h
    refine List.count_eq_zero.2 fun mem => ?_
    rw [h _ mem] at hblank
    cases hblank
  have hopening : opening.count 'x' = 0 := by decide
  have hdollar : opening.count '$' = 1 := by decide
  have hmark : nameMark.count 'x' = 0 := by decide +kernel
  have hclosing : closing.count 'x' = 0 := by decide
  simp only [spelled, List.count_append, absent before hbefore, absent after hafter, hopening,
    hdollar, hmark, hclosing]
  omega

/-- Replacing removes no more `x` than the name has, for each dollar sign. -/
theorem count_le_count_replace (key value s : List Char) :
    s.count 'x' ≤ (replace key value s).count 'x' + s.count '$' * key.length := by
  induction s using replace_induction key with
  | nil => simp
  | found s rest h ih =>
      rw [replace_of_after h]
      obtain ⟨before, after, hbefore, hafter, rfl⟩ := after?_eq_some_iff.1 h
      -- the dollar sign of the placeholder pays for the name
      obtain ⟨hname, hdollar⟩ := count_spelled key hbefore hafter
      have hkey : key.count 'x' ≤ key.length := List.count_le_length
      have hone := Nat.mul_le_mul_right key.length hdollar
      simp only [List.count_append, hname, Nat.add_mul]
      omega
  | kept c s h ih =>
      rw [replace_cons h, List.count_cons, List.count_cons, List.count_cons]
      have hmul : s.count '$' * key.length ≤
          (s.count '$' + if (c == '$') = true then 1 else 0) * key.length :=
        Nat.mul_le_mul_right _ (Nat.le_add_right _ _)
      omega

/-- For each dollar sign that was there, replacing leaves at most one and those of the value. -/
theorem count_dollar_replace_le (key value s : List Char) :
    (replace key value s).count '$' ≤ s.count '$' * (1 + value.count '$') := by
  induction s using replace_induction key with
  | nil => simp [replace_nil]
  | found s rest h ih =>
      rw [replace_of_after h]
      obtain ⟨before, after, hbefore, hafter, rfl⟩ := after?_eq_some_iff.1 h
      obtain ⟨-, hdollar⟩ := count_spelled key hbefore hafter
      have hone := Nat.mul_le_mul_right (1 + value.count '$') hdollar
      simp only [List.count_append, Nat.add_mul] at ih hone ⊢
      omega
  | kept c s h ih =>
      rw [replace_cons h, List.count_cons, List.count_cons, Nat.add_mul]
      have hone : (if (c == '$') = true then 1 else 0) ≤
          (if (c == '$') = true then 1 else 0) * (1 + value.count '$') :=
        Nat.le_mul_of_pos_right _ (by omega)
      omega

/-- Where an input is mentioned, its value is put in. -/
theorem Mentions.count_le {key s : List Char} (h : Mentions key s) (value : List Char) :
    value.count 'x' ≤ (replace key value s).count 'x' := by
  induction s with
  | nil => exact absurd h (not_mentions_nil key)
  | cons c s ih =>
      cases found : after? key (c :: s) with
      | some rest =>
          rw [replace_of_after found, List.count_append]
          exact Nat.le_add_right _ _
      | none =>
          rw [mentions_cons_iff, found] at h
          have later := ih (h.resolve_left (by simp))
          rw [replace_cons found, List.count_cons]
          omega

end Placeholder

/-- How many `x` inputs can remove from a text, at most, for each dollar sign in it. -/
def lossPerDollar : List (String × String) → Nat
  | [] => 0
  | input :: rest =>
    input.1.toList.length + (1 + input.2.toList.count '$') * lossPerDollar rest

theorem count_le_count_interpolate (inputs : List (String × String)) (script : String) :
    script.toList.count 'x' ≤ (interpolate inputs script).toList.count 'x' +
      script.toList.count '$' * lossPerDollar inputs := by
  induction inputs generalizing script with
  | nil => simp [interpolate_nil, lossPerDollar]
  | cons input inputs ih =>
      let s := script.toList
      let s' := replace input.1.toList input.2.toList s
      let final := (interpolate (input :: inputs) script).toList.count 'x'
      have here : s.count 'x' ≤ s'.count 'x' + s.count '$' * input.1.toList.length :=
        count_le_count_replace _ _ s
      have dollars : s'.count '$' ≤ s.count '$' * (1 + input.2.toList.count '$') :=
        count_dollar_replace_le _ _ s
      have later : s'.count 'x' ≤ final + s'.count '$' * lossPerDollar inputs := by
        have h := ih (String.ofList s')
        rwa [← interpolate_cons, String.toList_ofList] at h
      calc s.count 'x'
          ≤ final + s'.count '$' * lossPerDollar inputs +
              s.count '$' * input.1.toList.length := by omega
        _ ≤ final + s.count '$' * (1 + input.2.toList.count '$') * lossPerDollar inputs +
              s.count '$' * input.1.toList.length := by
            have := Nat.mul_le_mul_right (lossPerDollar inputs) dollars
            omega
        _ = final + s.count '$' * lossPerDollar (input :: inputs) := by
            rw [lossPerDollar]
            ring

/-! ## Influence -/

/-- A mentioned input has, for every outcome, a value that gives another one. -/
theorem exists_value_of_mentions {key script : String}
    (h : Mentions key.toList script.toList) (inputs : List (String × String)) (outcome : String) :
    ∃ value, interpolate ((key, value) :: inputs) script ≠ outcome := by
  let removable := script.toList.count '$' * lossPerDollar inputs
  let value := List.replicate (outcome.toList.count 'x' + removable + 1) 'x'
  refine ⟨String.ofList value, fun same => ?_⟩
  have hcount : value.count 'x' = outcome.toList.count 'x' + removable + 1 :=
    List.count_replicate_self
  have hdollar : value.count '$' = 0 := List.count_eq_zero.2 fun mem => by
    simpa using List.eq_of_mem_replicate mem
  let s := replace key.toList value script.toList
  -- the value is put in, and the inputs after it cannot remove enough of it
  have inserted : value.count 'x' ≤ s.count 'x' := h.count_le value
  have dollars : s.count '$' ≤ script.toList.count '$' * (1 + 0) :=
    hdollar ▸ count_dollar_replace_le key.toList value script.toList
  have left := count_le_count_interpolate inputs (String.ofList s)
  have hfinal : interpolate inputs (String.ofList s) = outcome := by
    rw [← same, interpolate_cons, String.toList_ofList]
  rw [hfinal, String.toList_ofList] at left
  have lost := Nat.mul_le_mul_right (lossPerDollar inputs) dollars
  simp only [Nat.add_zero, Nat.mul_one] at lost
  omega

/-- **An input has no influence exactly if the script, with the inputs before it put in, does not
mention it.** Then it can be left out, or given any other value; else there is a value with which it
cannot be left out, and one that cannot be given in place of another. -/
theorem interpolate_ignores_iff (before after : List (String × String)) (key script : String) :
    ((∀ value, interpolate (before ++ (key, value) :: after) script =
        interpolate (before ++ after) script) ↔
      ¬Mentions key.toList (interpolate before script).toList) ∧
    ((∀ value value', interpolate (before ++ (key, value) :: after) script =
        interpolate (before ++ (key, value') :: after) script) ↔
      ¬Mentions key.toList (interpolate before script).toList) := by
  simp only [interpolate_append]
  generalize interpolate before script = text
  refine ⟨⟨?_, ?_⟩, ⟨?_, ?_⟩⟩
  · intro left_out mentioned
    obtain ⟨value, differs⟩ := exists_value_of_mentions mentioned after (interpolate after text)
    exact differs (left_out value)
  · exact fun h value => interpolate_cons_of_not_mentions h value after
  · intro replaced mentioned
    obtain ⟨value, differs⟩ :=
      exists_value_of_mentions mentioned after (interpolate ((key, "") :: after) text)
    exact differs (replaced value "")
  · intro h value value'
    rw [interpolate_cons_of_not_mentions h, interpolate_cons_of_not_mentions h]

/-- Whether the name of an input is made of letters, digits, dashes and underscores. -/
def isInputName (key : String) : Bool :=
  key.toList.all fun c => c.isAlphanum || c == '-' || c == '_'

/-- The placeholder of an input with a space on either side of the name. -/
def placeholder (key : String) : String := "$\x7b\x7b inputs." ++ key ++ " \x7d\x7d"

/-- A script that is one placeholder becomes the value, and the inputs after it are put in there. -/
theorem interpolate_placeholder (key value : String) (inputs : List (String × String)) :
    interpolate ((key, value) :: inputs) (placeholder key) = interpolate inputs value := by
  have whole : after? key.toList (placeholder key).toList = some [] := by
    have hstart : "$\x7b\x7b inputs.".toList = opening ++ ([' '] ++ nameMark) := by decide +kernel
    have hstop : " \x7d\x7d".toList = [' '] ++ closing := by decide +kernel
    have hblank : ∀ c ∈ [' '], isBlank c = true := List.forall_mem_singleton.2 (by decide)
    refine after?_eq_some_iff.2 ⟨[' '], [' '], hblank, hblank, ?_⟩
    simp [placeholder, spelled, hstart, hstop]
  rw [interpolate_cons, replace_of_after whole, replace_nil, List.append_nil, String.ofList_toList]

/-- That the script itself does not mention an input is not enough: here the value of `a` mentions
`k`, and what it inserts is expanded again. -/
theorem inserted_value_is_expanded :
    ¬∀ (before after : List (String × String)) (key script : String),
      (before.map (·.1) ++ key :: after.map (·.1)).Nodup →
      (∀ name ∈ before.map (·.1) ++ key :: after.map (·.1), isInputName name = true) →
      ¬Mentions key.toList script.toList →
      (∀ value value', interpolate (before ++ (key, value) :: after) script =
          interpolate (before ++ (key, value') :: after) script) ∧
        ∀ value, interpolate (before ++ (key, value) :: after) script =
          interpolate (before ++ after) script := by
  intro claim
  have distinct : ["a", "k"].Nodup := by decide
  have names : ∀ name ∈ ["a", "k"], isInputName name = true :=
    List.all_eq_true.1 (by decide +kernel)
  have unmentioned : ¬Mentions "k".toList (placeholder "a").toList := by decide +kernel
  obtain ⟨-, left_out⟩ :=
    claim [("a", placeholder "k")] [] "k" (placeholder "a") distinct names unmentioned
  have same : interpolate [("a", placeholder "k"), ("k", "secret")] (placeholder "a") =
      interpolate [("a", placeholder "k")] (placeholder "a") := left_out "secret"
  rw [interpolate_placeholder, interpolate_placeholder, interpolate_placeholder, interpolate_nil,
    interpolate_nil] at same
  exact absurd same (by decide +kernel)

end ActionRehearsal
