import ActionRehearsal.Analysis.Report
import ActionRehearsal.Proofs.Text.Search

/-!
# Literal tokens in texts and scripts

What a rule finds is said without the search: a pattern is written in a text (`Pattern.IsWritten`), and
a text holds a literal token (`HoldsToken`). A document leaks one if some line of it holds one and
refers to no stored secret (`LeaksToken`).

The scan of a document names exactly the rules that one of its lines breaks (`mem_scanText_iff`), so it
finds nothing exactly if the document leaks no token (`scanText_ne_nil_iff`); and the report on scripts
says exactly whether one of them holds a token (`hasLiteralTokens_iff`).
-/

set_option autoImplicit false

namespace ActionRehearsal.Analysis

open ActionRehearsal.Text

/-! ## Patterns -/

/-- A text starts with some number of characters of a class. -/
theorem le_length_takeWhile_iff {least : Nat} {isTail : Char → Bool} {s : List Char} :
    least ≤ (s.takeWhile isTail).length ↔
      ∃ tail, tail.length = least ∧ (∀ c ∈ tail, isTail c = true) ∧ tail <+: s := by
  constructor
  · intro enough
    refine ⟨(s.takeWhile isTail).take least, List.length_take_of_le enough, ?_, ?_⟩
    · exact fun c mem => List.mem_takeWhile_imp (List.mem_of_mem_take mem)
    · exact (List.take_prefix _ _).trans (List.takeWhile_prefix _)
  · rintro ⟨tail, rfl, all_tail, rest, rfl⟩
    rw [List.takeWhile_append_of_pos all_tail, List.length_append]
    omega

namespace Pattern

/-- Whether a pattern is written somewhere in a text. -/
def IsWritten (p : Pattern) (s : List Char) : Prop :=
  ∃ tail, tail.length = p.least ∧ (∀ c ∈ tail, p.isTail c = true) ∧ p.start.toList ++ tail <:+: s

theorem matchesAt_iff {p : Pattern} {s : List Char} :
    p.matchesAt s = true ↔ ∃ tail, tail.length = p.least ∧ (∀ c ∈ tail, p.isTail c = true) ∧
      p.start.toList ++ tail <+: s := by
  unfold matchesAt
  cases read : literal p.start.toList s with
  | none =>
      rw [literal_eq_none_iff] at read
      simp only [Bool.false_eq_true, false_iff]
      rintro ⟨tail, -, -, starts⟩
      exact read ((List.prefix_append _ _).trans starts)
  | some rest =>
      obtain rfl := literal_eq_some_iff.1 read
      simp only [decide_eq_true_eq, le_length_takeWhile_iff, List.prefix_append_right_inj]

/-- The search finds a pattern exactly where it is written. -/
theorem occursIn_iff {p : Pattern} {s : List Char} : p.occursIn s = true ↔ p.IsWritten s := by
  induction s with
  | nil => simp only [occursIn, matchesAt_iff, IsWritten, List.prefix_nil, List.infix_nil]
  | cons c s ih =>
      simp only [occursIn, Bool.or_eq_true, matchesAt_iff, ih, IsWritten, List.infix_cons_iff]
      constructor
      · rintro (⟨tail, least, all_tail, here⟩ | ⟨tail, least, all_tail, later⟩)
        · exact ⟨tail, least, all_tail, .inl here⟩
        · exact ⟨tail, least, all_tail, .inr later⟩
      · rintro ⟨tail, least, all_tail, here | later⟩
        · exact .inl ⟨tail, least, all_tail, here⟩
        · exact .inr ⟨tail, least, all_tail, later⟩

end Pattern

/-! ## Rules -/

/-- Whether a text has a pattern of a rule. -/
def Rule.IsBroken (rule : Rule) (s : List Char) : Prop := ∃ p ∈ rule.patterns, p.IsWritten s

theorem Rule.hits_iff {rule : Rule} {s : List Char} : rule.hits s = true ↔ rule.IsBroken s := by
  simp only [hits, List.any_eq_true, Pattern.occursIn_iff, IsBroken]

/-- Whether a text holds a literal token. -/
def HoldsToken (s : List Char) : Prop := ∃ rule ∈ literalTokens, rule.IsBroken s

/-- Whether some line of a document holds a literal token and refers to no stored secret. -/
def LeaksToken (text : String) : Prop :=
  ∃ line ∈ boundaryLines text.toList, ¬secretReference <:+: line ∧ HoldsToken line

/-! ## Scanning a document -/

theorem mem_lineHits_iff {rule : Rule} {line : List Char} :
    rule ∈ lineHits line ↔
      ¬secretReference <:+: line ∧ rule ∈ literalTokens ∧ rule.IsBroken line := by
  simp only [lineHits, occursIn_iff]
  by_cases refers : secretReference <:+: line
  · simp [refers]
  · simp [refers, Rule.hits_iff]

theorem mem_addNew_iff {name : String} {names : List String} {rules : List Rule} :
    name ∈ addNew names rules ↔ name ∈ names ∨ ∃ rule ∈ rules, rule.name = name := by
  induction rules generalizing names with
  | nil => simp [addNew]
  | cons rule rules ih =>
      rw [addNew]
      split
      -- a name that is there already adds nothing
      · rename_i held
        have held : rule.name ∈ names := List.contains_iff_mem.1 held
        rw [ih, List.exists_mem_cons_iff]
        constructor
        · exact fun h => h.imp_right .inr
        · rintro (mem | rfl | mem)
          · exact .inl mem
          · exact .inl held
          · exact .inr mem
      · rw [ih, List.mem_append, List.mem_singleton, List.exists_mem_cons_iff, or_assoc,
          eq_comm (a := name)]

/-- The scan names exactly the rules that some line breaks. -/
theorem mem_scanText_iff {name text : String} :
    name ∈ scanText text ↔
      ∃ line ∈ boundaryLines text.toList, ∃ rule ∈ lineHits line, rule.name = name := by
  -- the names found so far stay, so the induction is about any of them
  have scanned (lines : List (List Char)) (names : List String) :
      name ∈ lines.foldl (fun names line => addNew names (lineHits line)) names ↔
        name ∈ names ∨ ∃ line ∈ lines, ∃ rule ∈ lineHits line, rule.name = name := by
    induction lines generalizing names with
    | nil => simp
    | cons line lines ih =>
        rw [List.foldl_cons, ih, mem_addNew_iff, List.exists_mem_cons_iff, or_assoc]
  rw [scanText, scanned]
  simp only [List.not_mem_nil, false_or]

/-- The scan finds something exactly in a document that leaks a token. -/
theorem scanText_ne_nil_iff {text : String} : scanText text ≠ [] ↔ LeaksToken text := by
  constructor
  · intro ne
    obtain ⟨name, found⟩ := List.exists_mem_of_ne_nil _ ne
    obtain ⟨line, hline, rule, hrule, -⟩ := mem_scanText_iff.1 found
    obtain ⟨plain, listed, broken⟩ := mem_lineHits_iff.1 hrule
    exact ⟨line, hline, plain, rule, listed, broken⟩
  · rintro ⟨line, hline, plain, rule, listed, broken⟩
    have hrule := mem_lineHits_iff.2 ⟨plain, listed, broken⟩
    exact List.ne_nil_of_mem (mem_scanText_iff.2 ⟨line, hline, rule, hrule, rfl⟩)

/-! ## Scripts -/

theorem someScriptHits_iff {rules : List Rule} {steps : List Step} :
    someScriptHits rules steps = true ↔
      ∃ step ∈ steps, ∃ script ∈ step.script?, ∃ rule ∈ rules, rule.IsBroken script.toList := by
  simp only [someScriptHits, scripts, anyHits, List.any_eq_true, List.mem_filterMap,
    Option.map_eq_some_iff, Rule.hits_iff, Option.mem_def]
  constructor
  · rintro ⟨_, ⟨step, hstep, script, given, rfl⟩, broken⟩
    exact ⟨step, hstep, script, given, broken⟩
  · rintro ⟨step, hstep, script, given, broken⟩
    exact ⟨_, ⟨step, hstep, script, given, rfl⟩, broken⟩

/-- The report on scripts says whether one of them holds a literal token. -/
theorem hasLiteralTokens_iff {steps : List Step} :
    (secretsReport steps).hasLiteralTokens = true ↔
      ∃ step ∈ steps, ∃ script ∈ step.script?, HoldsToken script.toList :=
  someScriptHits_iff

end ActionRehearsal.Analysis
