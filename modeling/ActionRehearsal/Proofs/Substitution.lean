import ActionRehearsal.Proofs.Influence
import Mathlib.Data.List.Nodup

/-!
# Substituting all inputs at once

Inputs are put into a script one after the other, each in a pass of its own over what the passes
before it have left. `interpolateAtOnce` is the substitution that one would rather think of: a
single pass, in which each placeholder is replaced by the text of its input and nothing that is put
in is looked at again.

The two agree on a script in which no two texts can grow together (`Separable`). What could go wrong
is that a text put in completes what another placeholder has begun. `Apart` says that no placeholder
stands right behind such a beginning, and `Apart.exists_of_replaceAll` that what completes a
placeholder after a pass was there before it. So one pass more is one input more
(`replaceAll_concat`), and the passes of all inputs are one (`interpolate_eq_atOnce`).
-/

set_option autoImplicit false

namespace ActionRehearsal

open ActionRehearsal.Text

namespace Placeholder

/-! ## The placeholders of an input -/

/-- The characters that placeholders open and close with. -/
def marks : List Char := ['$', '{', '}']

/-- Whether a text holds no mark. -/
def PlainText (text : List Char) : Prop :=
  ∀ c ∈ text, c ∉ marks

/-- Whether a name holds neither a blank character nor a mark. -/
def PlainName (key : List Char) : Prop :=
  ∀ c ∈ key, isBlank c = false ∧ c ∉ marks

-- the instances go along the text: characters can be enumerated, but there are too many of them
instance (text : List Char) : Decidable (PlainText text) :=
  List.decidableBAll (fun c => c ∉ marks) text

instance (key : List Char) : Decidable (PlainName key) :=
  List.decidableBAll (fun c => isBlank c = false ∧ c ∉ marks) key

/-- Whether a text is a placeholder of an input. -/
def Spells (key p : List Char) : Prop :=
  ∃ before after, (∀ c ∈ before, isBlank c = true) ∧ (∀ c ∈ after, isBlank c = true) ∧
    p = spelled key before after

section Spelling

variable {key p rest : List Char}

theorem Spells.after? (h : Spells key p) (rest : List Char) :
    after? key (p ++ rest) = some rest := by
  obtain ⟨before, after, hbefore, hafter, rfl⟩ := h
  exact after?_eq_some_iff.2 ⟨before, after, hbefore, hafter, rfl⟩

theorem exists_of_after? {s : List Char} (h : Placeholder.after? key s = some rest) :
    ∃ p, Spells key p ∧ s = p ++ rest := by
  obtain ⟨before, after, hbefore, hafter, rfl⟩ := after?_eq_some_iff.1 h
  exact ⟨_, ⟨before, after, hbefore, hafter, rfl⟩, rfl⟩

/-- Between its opening and its closing, a placeholder holds no mark. -/
theorem Spells.exists_inner (h : Spells key p) (name : PlainName key) :
    ∃ inner, p = opening ++ (inner ++ closing) ∧ PlainText inner := by
  obtain ⟨before, after, hbefore, hafter, rfl⟩ := h
  have blank : ∀ c, isBlank c = true → c ∉ marks := by
    intro c hc mem
    simp only [marks, List.mem_cons, List.not_mem_nil, or_false] at mem
    rcases mem with rfl | rfl | rfl
    all_goals exact absurd hc (by decide)
  have mark : PlainText nameMark := by decide +kernel
  refine ⟨before ++ (nameMark ++ (key ++ after)), by simp [spelled], ?_⟩
  simp only [PlainText, List.forall_mem_append]
  exact ⟨fun c mem => blank c (hbefore c mem), mark, fun c mem => (name c mem).2,
    fun c mem => blank c (hafter c mem)⟩

/-- The only dollar sign of a placeholder is its first character. -/
theorem Spells.exists_tail (h : Spells key p) (name : PlainName key) :
    ∃ tail, p = '$' :: tail ∧ '$' ∉ tail := by
  obtain ⟨inner, rfl, hinner⟩ := h.exists_inner name
  refine ⟨'{' :: '{' :: (inner ++ closing), rfl, ?_⟩
  have absent : '$' ∉ inner := fun mem => hinner _ mem (by decide)
  simp [absent, closing]

/-- A name ends where the next blank character or closing brace stands. -/
theorem takeWhile_name {after : List Char} (name : PlainName key)
    (hafter : ∀ c ∈ after, isBlank c = true) (rest : List Char) :
    (key ++ (after ++ (closing ++ rest))).takeWhile (fun c => !isBlank c && !marks.contains c) =
      key := by
  rw [List.takeWhile_append_of_pos fun c mem => by simp [name c mem]]
  cases after with
  | nil => simp [closing, marks]
  | cons c after => simp [hafter c List.mem_cons_self]

/-- At one place there is a placeholder of one input only. -/
theorem Spells.key_unique {key' p' rest' : List Char} (h : Spells key p) (h' : Spells key' p')
    (name : PlainName key) (name' : PlainName key') (e : p ++ rest = p' ++ rest') : key = key' := by
  obtain ⟨before, after, hbefore, hafter, rfl⟩ := h
  obtain ⟨before', after', hbefore', hafter', rfl⟩ := h'
  simp only [spelled, List.append_assoc] at e
  have inside := congrArg skipBlank (List.append_cancel_left e)
  rw [skipBlank_append hbefore, skipBlank_append hbefore', skipBlank_nameMark,
    skipBlank_nameMark] at inside
  have named := List.append_cancel_left inside
  rw [← takeWhile_name name hafter rest, named, takeWhile_name name' hafter' rest']

end Spelling

variable {inputs : List (String × String)} {s p value rest : List Char}

/-! ## The first placeholder -/

/-- Whether a text is a placeholder of one of the inputs. -/
def IsPlaceholder (inputs : List (String × String)) (p : List Char) : Prop :=
  ∃ input ∈ inputs, Spells input.1.toList p

theorem IsPlaceholder.of_subset {more : List (String × String)} (h : IsPlaceholder inputs p)
    (sub : inputs ⊆ more) : IsPlaceholder more p := by
  obtain ⟨input, mem, hp⟩ := h
  exact ⟨input, sub mem, hp⟩

/-- The text for the placeholder at the start of a text, with what follows the placeholder. -/
def first? (inputs : List (String × String)) (s : List Char) : Option (List Char × List Char) :=
  inputs.findSome? fun input => (after? input.1.toList s).map fun rest => (input.2.toList, rest)

theorem first?_nil (inputs : List (String × String)) : first? inputs [] = none := by
  simp [first?, after?, literal, opening]

/-- A placeholder starts with a dollar sign. -/
theorem first?_cons_of_ne {c : Char} (ne : c ≠ '$') (s : List Char) :
    first? inputs (c :: s) = none := by
  simp [first?, after?, literal, opening, ne.symm]

theorem first?_singleton (input : String × String) (s : List Char) :
    first? [input] s = (after? input.1.toList s).map fun rest => (input.2.toList, rest) := by
  simp [first?]

theorem first?_append (inputs more : List (String × String)) (s : List Char) :
    first? (inputs ++ more) s = (first? inputs s).or (first? more s) :=
  List.findSome?_append

theorem exists_of_first? (h : first? inputs s = some (value, rest)) :
    ∃ input ∈ inputs, ∃ p, Spells input.1.toList p ∧ s = p ++ rest ∧ input.2.toList = value := by
  obtain ⟨input, mem, found⟩ := List.exists_of_findSome?_eq_some h
  obtain ⟨after, hafter, e⟩ := Option.map_eq_some_iff.1 found
  cases e
  obtain ⟨p, hp, rfl⟩ := exists_of_after? hafter
  exact ⟨input, mem, p, hp, rfl, rfl⟩

/-- Nothing is found exactly where no placeholder of an input starts. -/
theorem first?_eq_none_iff :
    first? inputs s = none ↔ ∀ p rest, s = p ++ rest → ¬IsPlaceholder inputs p := by
  constructor
  · rintro h p rest rfl ⟨input, mem, hp⟩
    have nothing := List.findSome?_eq_none_iff.1 h input mem
    rw [hp.after? rest] at nothing
    cases nothing
  · intro h
    rw [Option.eq_none_iff_forall_ne_some]
    rintro ⟨value, rest⟩ found
    obtain ⟨input, mem, p, hp, e, -⟩ := exists_of_first? found
    exact h p rest e ⟨input, mem, hp⟩

theorem length_of_first? (h : first? inputs s = some (value, rest)) : rest.length < s.length := by
  obtain ⟨input, -, p, hp, rfl, -⟩ := exists_of_first? h
  exact length_after (hp.after? rest)

/-- If no two inputs have one name, it does not matter which of them is tried first. -/
theorem first?_eq_some_iff (distinct : (inputs.map (·.1)).Nodup)
    (names : ∀ input ∈ inputs, PlainName input.1.toList) :
    first? inputs s = some (value, rest) ↔
      ∃ input ∈ inputs, ∃ p, Spells input.1.toList p ∧ s = p ++ rest ∧ input.2.toList = value := by
  constructor
  · exact exists_of_first?
  · rintro ⟨input, mem, p, hp, rfl, rfl⟩
    cases found : first? inputs (p ++ rest) with
    | none => exact absurd ⟨input, mem, hp⟩ (first?_eq_none_iff.1 found p rest rfl)
    | some read =>
        obtain ⟨value, rest'⟩ := read
        obtain ⟨input', mem', p', hp', e, rfl⟩ := exists_of_first? found
        have name := hp.key_unique hp' (names input mem) (names input' mem') e
        obtain rfl : input = input' :=
          List.inj_on_of_nodup_map distinct mem mem' (String.toList_inj.1 name)
        have same := hp'.after? rest'
        rw [← e, hp.after? rest] at same
        rw [Option.some.inj same]

theorem first?_of_perm {inputs' : List (String × String)} (perm : inputs'.Perm inputs)
    (distinct : (inputs.map (·.1)).Nodup) (names : ∀ input ∈ inputs, PlainName input.1.toList)
    (s : List Char) : first? inputs' s = first? inputs s := by
  have distinct' : (inputs'.map (·.1)).Nodup := (perm.map _).nodup_iff.2 distinct
  ext ⟨value, rest⟩
  rw [first?_eq_some_iff distinct' fun input mem => names input (perm.subset mem),
    first?_eq_some_iff distinct names]
  simp only [perm.mem_iff]

/-! ## One pass for all inputs -/

/-- The text with every placeholder of an input replaced by the text of that input, from the left.
What is put in is not looked at again. -/
def replaceAll (inputs : List (String × String)) (s : List Char) : List Char :=
  match _h : first? inputs s with
  | some (value, rest) => value ++ replaceAll inputs rest
  | none => match s with
    | [] => []
    | c :: s => c :: replaceAll inputs s
termination_by s.length
decreasing_by
  · exact length_of_first? ‹_›
  · simp

theorem replaceAll_of_first? (h : first? inputs s = some (value, rest)) :
    replaceAll inputs s = value ++ replaceAll inputs rest := by
  rw [replaceAll]
  split
  · simp_all
  · simp_all

theorem replaceAll_cons {c : Char} (h : first? inputs (c :: s) = none) :
    replaceAll inputs (c :: s) = c :: replaceAll inputs s := by
  rw [replaceAll]
  split
  · simp_all
  · rfl

theorem replaceAll_nil (inputs : List (String × String)) : replaceAll inputs [] = [] := by
  rw [replaceAll]
  split
  · simp_all [first?_nil]
  · rfl

/-- What holds of the empty text, passes over a placeholder and passes over a character at which
none starts, holds of every text. -/
theorem replaceAll_induction (inputs : List (String × String)) {motive : List Char → Prop}
    (nil : motive [])
    (found : ∀ s value rest, first? inputs s = some (value, rest) → motive rest → motive s)
    (kept : ∀ c s, first? inputs (c :: s) = none → motive s → motive (c :: s)) (s : List Char) :
    motive s := by
  induction hn : s.length using Nat.strong_induction_on generalizing s with
  | _ n ih =>
      cases read : first? inputs s with
      | some first =>
          exact found s first.1 first.2 read (ih _ (hn ▸ length_of_first? read) first.2 rfl)
      | none =>
          cases s with
          | nil => exact nil
          | cons c s => exact kept c s read (ih s.length (by simp [← hn]) s rfl)

theorem replaceAll_of_no_inputs (s : List Char) : replaceAll [] s = s := by
  induction s with
  | nil => exact replaceAll_nil []
  | cons c s ih => rw [replaceAll_cons rfl, ih]

/-- With one input, the one pass is the pass of that input. -/
theorem replaceAll_singleton (input : String × String) (s : List Char) :
    replaceAll [input] s = replace input.1.toList input.2.toList s := by
  induction s using replace_induction input.1.toList with
  | nil => rw [replaceAll_nil, replace_nil]
  | found s rest h ih =>
      have found : first? [input] s = some (input.2.toList, rest) := by
        rw [first?_singleton, h, Option.map_some]
      rw [replaceAll_of_first? found, replace_of_after h, ih]
  | kept c s h ih =>
      have none : first? [input] (c :: s) = none := by
        rw [first?_singleton, h, Option.map_none]
      rw [replaceAll_cons none, replace_cons h, ih]

/-- Where inputs find the same, they put in the same. -/
theorem replaceAll_congr {inputs' : List (String × String)}
    (same : ∀ s, first? inputs' s = first? inputs s) (s : List Char) :
    replaceAll inputs' s = replaceAll inputs s := by
  induction s using replaceAll_induction inputs with
  | nil => rw [replaceAll_nil, replaceAll_nil]
  | found s value rest h ih =>
      rw [replaceAll_of_first? h, replaceAll_of_first? ((same s).trans h), ih]
  | kept c s h ih => rw [replaceAll_cons h, replaceAll_cons ((same _).trans h), ih]

/-- A text without dollar signs is kept. -/
theorem replaceAll_append {before : List Char} (h : '$' ∉ before) (s : List Char) :
    replaceAll inputs (before ++ s) = before ++ replaceAll inputs s := by
  induction before with
  | nil => rfl
  | cons c before ih =>
      have ne : c ≠ '$' := fun e => h (by simp [e])
      rw [List.cons_append, replaceAll_cons (first?_cons_of_ne ne _),
        ih (List.not_mem_of_not_mem_cons h), List.cons_append]

/-- A placeholder of an input that is not there is kept. -/
theorem replaceAll_of_unknown {key : List Char} (hp : Spells key p) (name : PlainName key)
    (unknown : first? inputs (p ++ rest) = none) :
    replaceAll inputs (p ++ rest) = p ++ replaceAll inputs rest := by
  obtain ⟨tail, rfl, absent⟩ := hp.exists_tail name
  rw [List.cons_append] at unknown
  rw [List.cons_append, replaceAll_cons unknown, replaceAll_append absent, List.cons_append]

/-! ## Placeholders that stand apart -/

/-- Whether no placeholder stands right behind the mere beginning of another one. -/
def Apart (inputs : List (String × String)) (s : List Char) : Prop :=
  ∀ start begun missing p rest, s = start ++ (begun ++ (p ++ rest)) → IsPlaceholder inputs p →
    IsPlaceholder inputs (begun ++ missing) → begun = [] ∨ missing = []

theorem Apart.of_infix {part : List Char} (h : Apart inputs s) (infixed : part <:+: s) :
    Apart inputs part := by
  rintro start begun missing p rest rfl
  obtain ⟨before, after, rfl⟩ := infixed
  exact h (before ++ start) begun missing p (rest ++ after) (by simp)

theorem Apart.of_append {before : List Char} (h : Apart inputs (before ++ s)) : Apart inputs s :=
  h.of_infix (List.suffix_append before s).isInfix

theorem Apart.of_subset {more : List (String × String)} (h : Apart more s) (sub : inputs ⊆ more) :
    Apart inputs s := fun start begun missing p rest e hp hb =>
  h start begun missing p rest e (hp.of_subset sub) (hb.of_subset sub)

/-- What completes a placeholder after a pass was there before it. -/
theorem Apart.exists_of_replaceAll {more : List (String × String)} {begun missing after : List Char}
    (apart : Apart more (begun ++ s)) (sub : inputs ⊆ more)
    (placeholder : IsPlaceholder more (begun ++ missing)) (ne : begun ≠ [])
    (h : replaceAll inputs s = missing ++ after) : ∃ rest, s = missing ++ rest := by
  induction missing generalizing begun s with
  | nil => exact ⟨s, rfl⟩
  | cons d missing ih =>
      cases found : first? inputs s with
      | some read =>
          -- a placeholder would stand right behind what has begun
          obtain ⟨value, rest⟩ := read
          obtain ⟨input, mem, p, hp, rfl, -⟩ := exists_of_first? found
          have alone := apart [] begun (d :: missing) p rest rfl ⟨input, sub mem, hp⟩ placeholder
          exact absurd (alone.resolve_left ne) (List.cons_ne_nil d missing)
      | none =>
          cases s with
          | nil =>
              rw [replaceAll_nil] at h
              cases h
          | cons c s =>
              rw [replaceAll_cons found, List.cons_append, List.cons.injEq] at h
              obtain ⟨rfl, h⟩ := h
              rw [List.append_cons] at apart placeholder
              obtain ⟨rest, rfl⟩ := ih apart placeholder (by simp) h
              exact ⟨rest, rfl⟩

/-- So a pass makes no placeholder. -/
theorem Apart.first?_replaceAll_eq_none {input : String × String} {c : Char}
    (apart : Apart (inputs ++ [input]) (c :: s)) (h : first? [input] (c :: s) = none) :
    first? [input] (c :: replaceAll inputs s) = none := by
  rw [first?_eq_none_iff] at h ⊢
  intro p after e hp
  cases p with
  | nil => exact h [] (c :: s) rfl hp
  | cons d missing =>
      obtain ⟨rfl, later⟩ := List.cons.inj e
      have placeholder : IsPlaceholder (inputs ++ [input]) ([c] ++ missing) :=
        hp.of_subset (List.subset_append_right inputs [input])
      obtain ⟨rest, rfl⟩ := apart.exists_of_replaceAll (List.subset_append_left inputs [input])
        placeholder (List.cons_ne_nil c []) later
      exact h (c :: missing) rest rfl hp

/-- One pass more is one input more. -/
theorem replaceAll_concat {input : String × String} (apart : Apart (inputs ++ [input]) s)
    (name : PlainName input.1.toList) (values : ∀ known ∈ inputs, '$' ∉ known.2.toList) :
    replaceAll [input] (replaceAll inputs s) = replaceAll (inputs ++ [input]) s := by
  -- along the one pass of all inputs, which finds what the inputs before find or the last one does
  induction s using replaceAll_induction (inputs ++ [input]) with
  | nil => simp only [replaceAll_nil]
  | found s value rest both ih =>
      rw [replaceAll_of_first? both]
      rw [first?_append] at both
      cases found : first? inputs s with
      | some read =>
          -- what was put in is passed over
          rw [found, Option.some_or] at both
          cases both
          obtain ⟨known, mem, p, -, rfl, rfl⟩ := exists_of_first? found
          rw [replaceAll_of_first? found, replaceAll_append (values known mem), ih apart.of_append]
      | none =>
          -- the placeholder was left as it is, and is found again
          rw [found, Option.none_or] at both
          obtain ⟨known, mem, p, hp, rfl, rfl⟩ := exists_of_first? both
          obtain rfl := List.mem_singleton.1 mem
          have again : first? [known] (p ++ replaceAll inputs rest) =
              some (known.2.toList, replaceAll inputs rest) := by
            rw [first?_singleton, hp.after?, Option.map_some]
          rw [replaceAll_of_unknown hp name found, replaceAll_of_first? again, ih apart.of_append]
  | kept c s both ih =>
      have later : Apart (inputs ++ [input]) ([c] ++ s) := apart
      rw [replaceAll_cons both]
      rw [first?_append, Option.or_eq_none_iff] at both
      rw [replaceAll_cons both.1, replaceAll_cons (apart.first?_replaceAll_eq_none both.2),
        ih later.of_append]

/-- A placeholder that starts before another one ends before it. -/
theorem Apart.first?_append_eq_none {start : List Char}
    (apart : Apart inputs (start ++ (p ++ rest))) (ne : start ≠ []) (hp : IsPlaceholder inputs p)
    (h : first? inputs start = none) : first? inputs (start ++ (p ++ rest)) = none := by
  rw [first?_eq_none_iff] at h ⊢
  intro q after e hq
  rcases List.append_eq_append_iff.1 e with ⟨missing, rfl, -⟩ | ⟨more, rfl, -⟩
  · rcases apart [] start missing p rest rfl hp hq with e | rfl
    · exact ne e
    · rw [List.append_nil] at hq
      exact h start [] (List.append_nil start).symm hq
  · exact h q more rfl hq

/-- A placeholder is replaced by the text of its input, and the text on each side of it as if it
stood alone. -/
theorem replaceAll_of_placeholder {input : String × String} {start : List Char}
    (distinct : (inputs.map (·.1)).Nodup) (names : ∀ input ∈ inputs, PlainName input.1.toList)
    (mem : input ∈ inputs) (hp : Spells input.1.toList p)
    (apart : Apart inputs (start ++ (p ++ rest))) :
    replaceAll inputs (start ++ (p ++ rest)) =
      replaceAll inputs start ++ (input.2.toList ++ replaceAll inputs rest) := by
  induction start using replaceAll_induction inputs with
  | nil =>
      have here : first? inputs (p ++ rest) = some (input.2.toList, rest) :=
        (first?_eq_some_iff distinct names).2 ⟨input, mem, p, hp, rfl, rfl⟩
      rw [List.nil_append, replaceAll_nil, replaceAll_of_first? here, List.nil_append]
  | found start value more found ih =>
      obtain ⟨known, hknown, q, hq, rfl, rfl⟩ := exists_of_first? found
      rw [List.append_assoc] at apart ⊢
      have longer : first? inputs (q ++ (more ++ (p ++ rest))) =
          some (known.2.toList, more ++ (p ++ rest)) :=
        (first?_eq_some_iff distinct names).2 ⟨known, hknown, q, hq, rfl, rfl⟩
      rw [replaceAll_of_first? longer, replaceAll_of_first? found, ih apart.of_append,
        List.append_assoc]
  | kept c start h ih =>
      have none := apart.first?_append_eq_none (List.cons_ne_nil c start) ⟨input, mem, hp⟩ h
      have later : Apart inputs ([c] ++ (start ++ (p ++ rest))) := apart
      rw [List.cons_append] at none
      rw [List.cons_append, replaceAll_cons none, replaceAll_cons h, ih later.of_append,
        List.cons_append]

/-! ## Texts that cannot grow together -/

/-- Whether names and texts of inputs hold no mark, and the placeholders of a text stand so that
none can be the end of a longer one. -/
structure Separable (inputs : List (String × String)) (s : List Char) : Prop where
  /-- No name holds a blank character or a mark. -/
  names : ∀ input ∈ inputs, PlainName input.1.toList
  /-- No text of an input holds a mark. It may be empty. -/
  values : ∀ input ∈ inputs, PlainText input.2.toList
  /-- No placeholder stands right behind a dollar sign or an opening brace. -/
  free : ∀ start c p rest, s = start ++ (c :: (p ++ rest)) → IsPlaceholder inputs p →
    c ≠ '$' ∧ c ≠ '{'
  /-- No dollar sign stands between an opening and the next closing. -/
  closed : ∀ start between rest, s = start ++ (opening ++ (between ++ (closing ++ rest))) →
    ¬closing <:+: between → '$' ∉ between

/-- What goes on to a placeholder is a part of its opening or goes past it. -/
theorem begun_cases {begun missing body : List Char} (e : begun ++ missing = opening ++ body) :
    begun = [] ∨ begun = ['$'] ∨ begun = ['$', '{'] ∨
      ∃ between, begun = opening ++ between ∧ between ++ missing = body := by
  rcases begun with _ | ⟨c₁, _ | ⟨c₂, _ | ⟨c₃, between⟩⟩⟩ <;> simp_all [opening]

/-- Before it is complete, a placeholder holds at most one closing brace. -/
theorem count_brace_le {begun missing inner : List Char} (e : begun ++ missing = inner ++ closing)
    (ne : missing ≠ []) (absent : '}' ∉ inner) : begun.count '}' ≤ 1 := by
  obtain ⟨missing, last, rfl⟩ := List.eq_nil_or_concat missing |>.resolve_left ne
  have parts : begun ++ missing = inner ++ ['}'] ∧ [last] = ['}'] :=
    List.append_inj' (by simpa [closing] using e) rfl
  have braces := congrArg (List.count '}') parts.1
  simp only [List.count_append, List.count_eq_zero.2 absent, List.count_singleton_self] at braces
  omega

/-- Placeholders stand apart in a text that keeps to the conditions. -/
theorem Separable.apart (h : Separable inputs s) : Apart inputs s := by
  have exists_inner : ∀ p, IsPlaceholder inputs p →
      ∃ inner, p = opening ++ (inner ++ closing) ∧ PlainText inner := by
    rintro p ⟨input, mem, hp⟩
    exact hp.exists_inner (h.names input mem)
  intro start begun missing p rest e hp hb
  by_contra! both
  obtain ⟨hbegun, hmissing⟩ := both
  obtain ⟨inner, rfl, hinner⟩ := exists_inner p hp
  obtain ⟨inner', whole, hinner'⟩ := exists_inner _ hb
  rcases begun_cases whole with rfl | rfl | rfl | ⟨between, rfl, unclosed⟩
  · exact hbegun rfl
  · exact (h.free start '$' _ rest e hp).1 rfl
  · exact (h.free (start ++ ['$']) '{' _ rest (by simpa using e) hp).2 rfl
  · -- the next closing is that of the placeholder, and its dollar sign stands before it
    have absent : '}' ∉ inner := fun mem => hinner _ mem (by decide)
    have one := count_brace_le unclosed hmissing fun mem => hinner' _ mem (by decide)
    have next : ¬closing <:+: between ++ (opening ++ inner) := by
      intro infixed
      have two := infixed.sublist.count_le '}'
      have hclosing : closing.count '}' = 2 := by decide
      have hopening : opening.count '}' = 0 := by decide
      simp only [List.count_append, List.count_eq_zero.2 absent] at two
      omega
    refine h.closed start (between ++ (opening ++ inner)) rest (by simpa using e) next ?_
    simp [opening]

/-- Whether placeholders stand free is seen at each place of the text. -/
theorem forall_free_iff :
    (∀ start c p rest, s = start ++ (c :: (p ++ rest)) → IsPlaceholder inputs p →
        c ≠ '$' ∧ c ≠ '{') ↔
      ∀ t ∈ s.tails, first? inputs t.tail ≠ none → t.head? ≠ some '$' ∧ t.head? ≠ some '{' := by
  constructor
  · intro h t ht found
    obtain ⟨start, rfl⟩ := (List.mem_tails _ _).1 ht
    obtain ⟨⟨value, rest⟩, found⟩ := Option.ne_none_iff_exists'.1 found
    obtain ⟨input, mem, p, hp, e, -⟩ := exists_of_first? found
    cases t with
    | nil => simp
    | cons c t =>
        obtain rfl : t = p ++ rest := e
        simpa using h start c p rest rfl ⟨input, mem, hp⟩
  · rintro h start c p rest rfl hp
    have here := h _ ((List.mem_tails _ _).2 (List.suffix_append start _)) fun none =>
      first?_eq_none_iff.1 none p rest rfl hp
    simpa using here

/-- So is what stands between an opening and the next closing. -/
theorem forall_closed_iff :
    (∀ start between rest, s = start ++ (opening ++ (between ++ (closing ++ rest))) →
        ¬closing <:+: between → '$' ∉ between) ↔
      ∀ t ∈ s.tails, ∀ u ∈ literal opening t, ∀ between ∈ u.inits,
        closing <+: u.drop between.length → ¬closing <:+: between → '$' ∉ between := by
  constructor
  · intro h t ht u hu between hbetween
    obtain ⟨start, rfl⟩ := (List.mem_tails _ _).1 ht
    obtain rfl := literal_eq_some_iff.1 hu
    obtain ⟨v, rfl⟩ := (List.mem_inits _ _).1 hbetween
    rw [List.drop_left]
    rintro ⟨rest, rfl⟩
    exact h start between rest rfl
  · rintro h start between rest rfl
    refine h _ ((List.mem_tails _ _).2 (List.suffix_append start _)) _ (literal_append opening _)
      between ((List.mem_inits _ _).2 (List.prefix_append between _)) ?_
    rw [List.drop_left]
    exact List.prefix_append closing rest

instance (inputs : List (String × String)) (s : List Char) : Decidable (Separable inputs s) :=
  decidable_of_iff
    ((∀ input ∈ inputs, PlainName input.1.toList) ∧
      (∀ input ∈ inputs, PlainText input.2.toList) ∧
      (∀ t ∈ s.tails, first? inputs t.tail ≠ none → t.head? ≠ some '$' ∧ t.head? ≠ some '{') ∧
      ∀ t ∈ s.tails, ∀ u ∈ literal opening t, ∀ between ∈ u.inits,
        closing <+: u.drop between.length → ¬closing <:+: between → '$' ∉ between)
    ⟨fun ⟨names, values, free, closed⟩ =>
      ⟨names, values, forall_free_iff.2 free, forall_closed_iff.2 closed⟩,
    fun h => ⟨h.names, h.values, forall_free_iff.1 h.free, forall_closed_iff.1 h.closed⟩⟩

end Placeholder

open Placeholder

/-- The script with the placeholders of all inputs replaced in one pass. -/
def interpolateAtOnce (inputs : List (String × String)) (script : String) : String :=
  String.ofList (replaceAll inputs script.toList)

/-- The passes of inputs one after the other are one pass, if placeholders stand apart. -/
theorem interpolate_of_apart {inputs : List (String × String)} {script : String}
    (apart : Apart inputs script.toList) (names : ∀ input ∈ inputs, PlainName input.1.toList)
    (values : ∀ input ∈ inputs, '$' ∉ input.2.toList) :
    interpolate inputs script = interpolateAtOnce inputs script := by
  induction inputs using List.reverseRecOn with
  | nil => rw [interpolate_nil, interpolateAtOnce, replaceAll_of_no_inputs, String.ofList_toList]
  | append_singleton inputs input ih =>
      have first : inputs ⊆ inputs ++ [input] := List.subset_append_left inputs [input]
      have last : input ∈ inputs ++ [input] := List.mem_append_right inputs List.mem_cons_self
      have before := ih (apart.of_subset first) (fun known mem => names known (first mem))
        fun known mem => values known (first mem)
      rw [interpolate_append, before, interpolate_cons, interpolate_nil, interpolateAtOnce,
        interpolateAtOnce, String.toList_ofList, ← replaceAll_singleton,
        replaceAll_concat apart (names input last) fun known mem => values known (first mem)]

/-- **One pass for each input is one pass for all of them.** Where no two texts can grow together,
each placeholder of an input is replaced by the text of that input, and the text on each side of it
is treated as if it stood alone. The order of the inputs does not matter. -/
theorem interpolate_eq_atOnce {inputs : List (String × String)} {script : String}
    (distinct : (inputs.map (·.1)).Nodup) (h : Separable inputs script.toList) :
    interpolate inputs script = interpolateAtOnce inputs script ∧
      (∀ key value start p rest, (key, value) ∈ inputs → Spells key.toList p.toList →
        script = start ++ p ++ rest →
        interpolate inputs script =
          interpolate inputs start ++ value ++ interpolate inputs rest) ∧
      ∀ inputs', inputs'.Perm inputs → interpolate inputs' script = interpolate inputs script := by
  have values : ∀ input ∈ inputs, '$' ∉ input.2.toList := fun input mem hc =>
    h.values input mem _ hc (by decide)
  have apart := h.apart
  refine ⟨interpolate_of_apart apart h.names values, ?_, ?_⟩
  · rintro key value start p rest mem hp rfl
    have halves := apart
    rw [String.toList_append, String.toList_append, List.append_assoc] at halves
    have hstart : Apart inputs start.toList := halves.of_infix (List.prefix_append _ _).isInfix
    have hrest : Apart inputs rest.toList := halves.of_append.of_append
    have replaced := replaceAll_of_placeholder distinct h.names mem hp halves
    rw [interpolate_of_apart apart h.names values, interpolate_of_apart hstart h.names values,
      interpolate_of_apart hrest h.names values]
    apply String.toList_inj.1
    simp only [interpolateAtOnce, String.toList_append, String.toList_ofList, List.append_assoc]
    exact replaced
  · intro inputs' perm
    have apart' : Apart inputs' script.toList := apart.of_subset perm.subset
    rw [interpolate_of_apart apart h.names values,
      interpolate_of_apart apart' (fun input mem => h.names input (perm.subset mem))
        fun input mem => values input (perm.subset mem),
      interpolateAtOnce, interpolateAtOnce,
      replaceAll_congr (first?_of_perm perm distinct h.names)]

/-- An input whose name and text are full of characters that patterns give a meaning to, and one
whose text is empty. -/
def oddInputs : List (String × String) := [("a.+", "\\1\n"), ("b", "")]

/-- A script with placeholders of both between closing braces, and with one of no input. -/
def oddScript : String :=
  "$\x7b\x7binputs.a.+\x7d\x7d\x7d$\x7b\x7b inputs.b \x7d\x7d\x7d $\x7b\x7binputs.c\x7d\x7d"

theorem interpolate_eq_atOnce_odd :
    Separable oddInputs oddScript.toList ∧
      interpolate oddInputs oddScript = "\\1\n\x7d\x7d $\x7b\x7binputs.c\x7d\x7d" ∧
      interpolate oddInputs.reverse oddScript = interpolate oddInputs oddScript := by
  have h : Separable oddInputs oddScript.toList := by decide +kernel
  obtain ⟨atOnce, -, order⟩ := interpolate_eq_atOnce (by decide) h
  have value : interpolateAtOnce oddInputs oddScript =
      "\\1\n\x7d\x7d $\x7b\x7binputs.c\x7d\x7d" := by decide +kernel
  exact ⟨h, atOnce.trans value, order _ (List.reverse_perm oddInputs)⟩

/-- Behind an opening brace, an empty text lets two braces meet, and the order matters. -/
example :
    interpolate [("a", ""), ("b", "x")] "$\x7b$\x7b\x7binputs.a\x7d\x7d\x7binputs.b\x7d\x7d" = "x" ∧
      interpolate [("b", "x"), ("a", "")] "$\x7b$\x7b\x7binputs.a\x7d\x7d\x7binputs.b\x7d\x7d" =
        "$\x7b\x7binputs.b\x7d\x7d" := by
  decide +kernel

end ActionRehearsal
