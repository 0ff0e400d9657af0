import ActionRehearsal.Proofs.Analysis.Tokens
import ActionRehearsal.Proofs.Text.Lines
import Mathlib.Data.List.Nodup

/-!
# Scanning a document by its lines

A document is scanned line by line, while a rule may be looked for in any text. Both find the same, since
no pattern of a literal token goes beyond a line: it starts with a fixed text without boundaries, and the
characters that may follow are no boundaries either (`Pattern.IsInline`). A rule of such patterns is broken
by a text exactly if it is broken by one of its lines (`Rule.isBroken_iff_exists_line`).

The main statement, `scanText_by_lines`, is what the scan names: each rule at most once, and exactly those
that a line breaks which refers to no stored secret. In a document without such references these are the
rules that the document breaks as a whole.
-/

set_option autoImplicit false

namespace ActionRehearsal.Analysis

open ActionRehearsal.Text

/-! ## Patterns within a line -/

/-- Whether what a pattern matches always lies within a line: it is not empty, and no boundary can be a
part of it. -/
structure Pattern.IsInline (p : Pattern) : Prop where
  start_ne : p.start ≠ ""
  start_plain : ∀ c ∈ p.start.toList, isBoundary c = false
  tail_plain : ∀ c, p.isTail c = true → isBoundary c = false

/-- Such a pattern is written in a text exactly if it is written in one of its lines. -/
theorem Pattern.IsInline.isWritten_iff {p : Pattern} (inline : p.IsInline) {text : List Char} :
    p.IsWritten text ↔ ∃ line ∈ boundaryLines text, p.IsWritten line := by
  have within {tail : List Char} (all_tail : ∀ c ∈ tail, p.isTail c = true) :
      p.start.toList ++ tail <:+: text ↔
        ∃ line ∈ boundaryLines text, p.start.toList ++ tail <:+: line := by
    apply infix_iff_exists_line
    · intro empty
      have start_empty := (List.append_eq_nil_iff.1 empty).1
      exact inline.start_ne (String.toList_eq_nil_iff.1 start_empty)
    · intro c mem
      rcases List.mem_append.1 mem with mem | mem
      · exact inline.start_plain c mem
      · exact inline.tail_plain c (all_tail c mem)
  constructor
  · rintro ⟨tail, least, all_tail, written⟩
    obtain ⟨line, mem, written⟩ := (within all_tail).1 written
    exact ⟨line, mem, tail, least, all_tail, written⟩
  · rintro ⟨line, mem, tail, least, all_tail, written⟩
    exact ⟨tail, least, all_tail, (within all_tail).2 ⟨line, mem, written⟩⟩

/-- A rule of such patterns is broken by a text exactly if it is broken by one of its lines. -/
theorem Rule.isBroken_iff_exists_line {rule : Rule} (inline : ∀ p ∈ rule.patterns, p.IsInline)
    {text : List Char} : rule.IsBroken text ↔ ∃ line ∈ boundaryLines text, rule.IsBroken line := by
  constructor
  · rintro ⟨p, listed, written⟩
    obtain ⟨line, mem, written⟩ := (inline p listed).isWritten_iff.1 written
    exact ⟨line, mem, p, listed, written⟩
  · rintro ⟨line, mem, p, listed, written⟩
    exact ⟨p, listed, (inline p listed).isWritten_iff.2 ⟨line, mem, written⟩⟩

/-- Letters and digits end no line. -/
theorem not_isBoundary_of_isTokenChar {c : Char} (h : isTokenChar c = true) : isBoundary c = false := by
  have classes : (decide ('A'.val ≤ c.val ∧ c.val ≤ 'Z'.val) ||
      (decide ('a'.val ≤ c.val) && decide (c.val ≤ 'z'.val)) ||
      (decide ('0'.val ≤ c.val) && decide (c.val ≤ '9'.val))) = true := h
  have codes : ((65 ≤ c.toNat ∧ c.toNat ≤ 90) ∨ 97 ≤ c.toNat ∧ c.toNat ≤ 122) ∨
      48 ≤ c.toNat ∧ c.toNat ≤ 57 := by
    simp only [Bool.or_eq_true, Bool.and_eq_true, decide_eq_true_eq, UInt32.le_iff_toNat_le] at classes
    exact classes
  rw [← Bool.not_eq_true]
  intro boundary
  simp only [isBoundary, Bool.or_eq_true, Bool.and_eq_true, decide_eq_true_eq, beq_iff_eq] at boundary
  omega

/-- No literal token goes beyond a line. -/
theorem isInline_of_literalTokens {rule : Rule} (listed : rule ∈ literalTokens) :
    ∀ p ∈ rule.patterns, p.IsInline := by
  intro p mem
  simp only [literalTokens, List.mem_cons, List.not_mem_nil, or_false] at listed
  rcases listed with rfl | rfl
  · obtain rfl := List.mem_singleton.1 mem
    exact ⟨by decide, not_isBoundary_of_any (by decide), fun c => not_isBoundary_of_isTokenChar⟩
  · obtain rfl := List.mem_singleton.1 mem
    refine ⟨by decide, not_isBoundary_of_any (by decide), fun c tail => ?_⟩
    rcases Bool.or_eq_true_iff.1 tail with letter | underscore
    · exact not_isBoundary_of_isTokenChar letter
    · obtain rfl : c = '_' := by simpa using underscore
      rfl

/-! ## What the scan names -/

/-- No name is added twice. -/
theorem nodup_addNew {names : List String} (distinct : names.Nodup) (rules : List Rule) :
    (addNew names rules).Nodup := by
  induction rules generalizing names with
  | nil => exact distinct
  | cons rule rules ih =>
      rw [addNew]
      split
      · exact ih distinct
      · rename_i absent
        apply ih
        rw [List.contains_iff_mem] at absent
        exact distinct.append (List.nodup_singleton _) (by simpa using absent)

theorem nodup_scanText (text : String) : (scanText text).Nodup := by
  -- whatever names the lines before have given, if they are distinct
  have scanned (lines : List (List Char)) (names : List String) (distinct : names.Nodup) :
      (lines.foldl (fun names line => addNew names (lineHits line)) names).Nodup := by
    induction lines generalizing names with
    | nil => exact distinct
    | cons line lines ih => exact ih _ (nodup_addNew distinct (lineHits line))
  exact scanned _ [] List.nodup_nil

/-- Rules about literal tokens are told apart by their names. -/
theorem eq_of_name_eq {rule rule' : Rule} (listed : rule ∈ literalTokens)
    (listed' : rule' ∈ literalTokens) (same : rule.name = rule'.name) : rule = rule' := by
  have distinct : (literalTokens.map (·.name)).Nodup := by decide
  exact List.inj_on_of_nodup_map distinct listed listed' same

/-- **Scanning by lines misses nothing and invents nothing.** What the scan of a document names are rules
about literal tokens, none of them twice. It names a rule exactly if some line breaks it that refers to no
stored secret, where lines hold no boundary; and if the document refers to none at all, exactly if the
document as a whole breaks it. -/
theorem scanText_by_lines (text : String) :
    (scanText text).Nodup ∧
      (∀ name ∈ scanText text, ∃ rule ∈ literalTokens, rule.name = name) ∧
      (∀ line ∈ boundaryLines text.toList, ∀ c ∈ line, isBoundary c = false) ∧
      ∀ rule ∈ literalTokens,
        (rule.name ∈ scanText text ↔ ∃ line ∈ boundaryLines text.toList,
          rule.hits line = true ∧ ¬"$\x7b\x7b secrets.".toList <:+: line) ∧
        (¬"$\x7b\x7b secrets.".toList <:+: text.toList →
          (rule.name ∈ scanText text ↔ rule.hits text.toList = true)) := by
  refine ⟨nodup_scanText text, ?_, not_isBoundary_of_mem_boundaryLines, ?_⟩
  · intro name found
    obtain ⟨line, -, rule, broken, named⟩ := mem_scanText_iff.1 found
    exact ⟨rule, (mem_lineHits_iff.1 broken).2.1, named⟩
  · intro rule listed
    have named : rule.name ∈ scanText text ↔ ∃ line ∈ boundaryLines text.toList,
        rule.hits line = true ∧ ¬secretReference <:+: line := by
      rw [mem_scanText_iff]
      refine exists_congr fun line => and_congr_right fun _ => ?_
      rw [Rule.hits_iff]
      constructor
      · rintro ⟨rule', hit, same⟩
        obtain ⟨plain, listed', broken⟩ := mem_lineHits_iff.1 hit
        obtain rfl := eq_of_name_eq listed' listed same
        exact ⟨broken, plain⟩
      · rintro ⟨broken, plain⟩
        exact ⟨rule, mem_lineHits_iff.2 ⟨plain, listed, broken⟩, rfl⟩
    refine ⟨named, fun no_reference => ?_⟩
    rw [named, Rule.hits_iff, Rule.isBroken_iff_exists_line (isInline_of_literalTokens listed)]
    refine exists_congr fun line => and_congr_right fun mem => ?_
    rw [Rule.hits_iff]
    -- a reference in a line is one in the document
    have refers_iff : secretReference <:+: text.toList ↔
        ∃ line ∈ boundaryLines text.toList, secretReference <:+: line :=
      infix_iff_exists_line (by decide) (not_isBoundary_of_any (by decide))
    exact and_iff_left fun refers => no_reference (refers_iff.2 ⟨line, mem, refers⟩)

/-- A token between two unusual boundaries, of which the second is a pair. -/
def separatedText : String := "on\u2028github_pat_1\r\nend"

/-- A reference to a stored secret, and a token on the next line. -/
def neighbouringText : String := "a: $\x7b\x7b secrets.T\rb: github_pat_1"

/-- A reference to a stored secret and a token on one line. -/
def sharedLine : String := "a: $\x7b\x7b secrets.T b: github_pat_1"

theorem scanText_by_lines_separated :
    ∃ rule ∈ literalTokens, rule.name = "github-fine-grained-pat" ∧
      ¬"$\x7b\x7b secrets.".toList <:+: separatedText.toList ∧
      rule.hits separatedText.toList = true ∧ "github-fine-grained-pat" ∈ scanText separatedText ∧
      "$\x7b\x7b secrets.".toList <:+: neighbouringText.toList ∧
      "github-fine-grained-pat" ∈ scanText neighbouringText ∧
      rule.hits sharedLine.toList = true ∧ "github-fine-grained-pat" ∉ scanText sharedLine := by
  have no_reference : ¬"$\x7b\x7b secrets.".toList <:+: separatedText.toList := by decide +kernel
  have listed : literalTokens[1] ∈ literalTokens := List.getElem_mem _
  have hit : literalTokens[1].hits separatedText.toList = true := by decide +kernel
  obtain ⟨-, -, -, separated⟩ := scanText_by_lines separatedText
  obtain ⟨-, -, -, neighbouring⟩ := scanText_by_lines neighbouringText
  obtain ⟨-, -, -, shared⟩ := scanText_by_lines sharedLine
  have reference : "$\x7b\x7b secrets.".toList <:+: neighbouringText.toList := by decide +kernel
  have token_line : "b: github_pat_1".toList ∈ boundaryLines neighbouringText.toList := by decide +kernel
  have token_hit : literalTokens[1].hits "b: github_pat_1".toList = true := by decide +kernel
  have token_plain : ¬"$\x7b\x7b secrets.".toList <:+: "b: github_pat_1".toList := by decide +kernel
  have shared_hit : literalTokens[1].hits sharedLine.toList = true := by decide +kernel
  -- the shared line is the only one, and it refers to a secret
  have refers : ∀ line ∈ boundaryLines sharedLine.toList, "$\x7b\x7b secrets.".toList <:+: line := by
    decide +kernel
  refine ⟨_, listed, rfl, no_reference, hit, ((separated _ listed).2 no_reference).2 hit, reference,
    (neighbouring _ listed).1.2 ⟨_, token_line, token_hit, token_plain⟩, shared_hit, ?_⟩
  intro found
  obtain ⟨line, mem, -, plain⟩ := (shared _ listed).1.1 found
  exact plain (refers line mem)

end ActionRehearsal.Analysis
