import ActionRehearsal.Guard
import ActionRehearsal.Proofs.Text.Search
import Mathlib.Tactic.MkIffOfInductiveProp

/-!
# Guards and the places of outputs

A guard compares an output by its place, spelled as `outputKey` spells it. The pattern splits the
place into an id and a name where it can, not where they were put together. The main statement,
`guardHolds_comparison_iff`, is that this does not matter: whatever the split, the place looked up
is the one that was written, and the value compared is the one in the quotes.

The name ends where `equalsQuoted` begins. No earlier end is possible, since what stands between
would have to be blank (`expected?_append_eq_none`).
-/

set_option autoImplicit false

namespace ActionRehearsal

open ActionRehearsal.Text

namespace Comparison

/-- The text of a comparison after its name, with blank text around the equality signs. -/
def equalsQuoted (before between value after : List Char) : List Char :=
  before ++ '=' :: '=' :: (between ++ '\'' :: (value ++ '\'' :: after))

/-! ## After the name -/

theorem not_isBlank_equals : isBlank '=' = false := by decide

theorem not_isBlank_quote : isBlank '\'' = false := by decide

theorem not_mem_of_blank {s : List Char} {c : Char} (h : ∀ d ∈ s, isBlank d = true)
    (hc : isBlank c = false) : c ∉ s := by
  intro hmem
  rw [h c hmem] at hc
  cases hc

/-- A value is read exactly from the text that writes it, up to the first quote after its first
character. -/
theorem expected?_eq_some_iff {s value : List Char} :
    expected? s = some value ↔
      ∃ before between after, (∀ c ∈ before, isBlank c = true) ∧
        (∀ c ∈ between, isBlank c = true) ∧ s = equalsQuoted before between value after ∧
        value ≠ [] ∧ '\n' ∉ value ∧ '\'' ∉ value.tail := by
  constructor
  · intro h
    simp only [expected?, Option.bind_eq_bind, Option.bind_eq_some_iff, Option.pure_def,
      Option.some.injEq, Prod.exists] at h
    obtain ⟨s₁, hequals, s₂, hquote, run, after, hrun, rfl⟩ := h
    obtain ⟨before, hs, hbefore⟩ := exists_eq_append_skipBlank s
    obtain ⟨between, hs₁, hbetween⟩ := exists_eq_append_skipBlank s₁
    obtain ⟨ne, newline, quote, rfl⟩ := shortestRun_char_iff.1 hrun
    rw [literal_eq_some_iff.1 hquote] at hs₁
    rw [literal_eq_some_iff.1 hequals, hs₁] at hs
    exact ⟨before, between, after, hbefore, hbetween, hs, ne, newline, quote⟩
  · rintro ⟨before, between, after, hbefore, hbetween, rfl, ne, newline, quote⟩
    have hrun : shortestRun (literal ['\'']) (value ++ '\'' :: after) = some (value, after) :=
      shortestRun_char_iff.2 ⟨ne, newline, quote, rfl⟩
    rw [expected?, equalsQuoted, skipBlank_append hbefore, skipBlank_cons not_isBlank_equals]
    simp [literal, skipBlank_append hbetween, skipBlank_cons not_isBlank_quote, hrun]

section Written

variable {before between value after : List Char}
  (hbefore : ∀ c ∈ before, isBlank c = true) (hbetween : ∀ c ∈ between, isBlank c = true)

include hbefore hbetween

/-- A text that ends the name is not passed over on the way to the equality signs. -/
theorem expected?_append_eq_none {x : List Char} (ne : x ≠ []) (quote : '\'' ∉ x)
    (stop : ∀ c ∈ x.getLast?, isBlank c = false) :
    expected? (x ++ equalsQuoted before between value after) = none := by
  rw [Option.eq_none_iff_forall_ne_some]
  intro found h
  obtain ⟨before', between', after', hbefore', hbetween', e, -⟩ := expected?_eq_some_iff.1 h
  -- up to the first quote, both sides are the same text
  have hquote : x ++ (before ++ '=' :: '=' :: between) = before' ++ '=' :: '=' :: between' := by
    have hsplit : (x ++ (before ++ '=' :: '=' :: between)) ++ '\'' :: (value ++ '\'' :: after) =
        (before' ++ '=' :: '=' :: between') ++ '\'' :: (found ++ '\'' :: after') := by
      simpa [equalsQuoted] using e
    refine (append_cons_inj_of_first ?_ ?_ hsplit).1
    · simp [quote, not_mem_of_blank hbefore not_isBlank_quote,
        not_mem_of_blank hbetween not_isBlank_quote]
    · simp [not_mem_of_blank hbefore' not_isBlank_quote,
        not_mem_of_blank hbetween' not_isBlank_quote]
  -- and so are the parts before the last equality sign but one
  have hequals : x ++ before = before' := by
    have hreverse := congrArg List.reverse hquote
    simp only [List.reverse_append, List.reverse_cons, List.append_assoc, List.cons_append,
      List.nil_append] at hreverse
    have h := (append_cons_inj_of_first
      (by simpa using not_mem_of_blank hbetween not_isBlank_equals)
      (by simpa using not_mem_of_blank hbetween' not_isBlank_equals) hreverse).2
    simpa [← List.reverse_append] using h
  have hlast : isBlank (x.getLast ne) = true :=
    hbefore' _ (hequals ▸ List.mem_append_left _ (List.getLast_mem ne))
  rw [stop _ (List.getLast?_eq_getLast_of_ne_nil ne)] at hlast
  cases hlast

variable (value_ne : value ≠ []) (value_newline : '\n' ∉ value) (value_quote : '\'' ∉ value)

include value_ne value_newline value_quote

/-- Where the name ends, the value is read. -/
theorem expected?_equalsQuoted : expected? (equalsQuoted before between value after) = some value :=
  expected?_eq_some_iff.2 ⟨before, between, after, hbefore, hbetween, rfl, value_ne, value_newline,
    fun h => value_quote (List.mem_of_mem_tail h)⟩

/-- So a name without newlines and quotes that is not blank at its end is read as a whole. -/
theorem shortestRun_expected? {name : List Char} (ne : name ≠ []) (newline : '\n' ∉ name)
    (quote : '\'' ∉ name) (stop : ∀ c ∈ name.getLast?, isBlank c = false) :
    shortestRun expected? (name ++ equalsQuoted before between value after) =
      some (name, value) := by
  have hvalue : expected? (equalsQuoted before between value after) = some value :=
    expected?_equalsQuoted hbefore hbetween value_ne value_newline value_quote
  apply shortestRun_append ne newline hvalue
  rintro first last rfl hfirst hlast
  refine expected?_append_eq_none hbefore hbetween hlast ?_ ?_
  · exact fun h => quote (List.mem_append_right _ h)
  · rwa [List.getLast?_append_of_ne_nil _ hlast] at stop

end Written

/-! ## Before the name -/

/-- If the mark is read further left than it was put before the name, then what is taken for the
name instead goes on to the same end. -/
theorem exists_longer_name {more mark name rest s : List Char} (ne : name ≠ [])
    (e : more ++ (mark ++ (name ++ rest)) = mark ++ s) :
    ∃ longer, longer ≠ [] ∧ s = longer ++ rest ∧ more ++ (mark ++ name) = mark ++ longer ∧
      longer.getLast? = name.getLast? := by
  have positive := List.length_pos_of_ne_nil ne
  have e' : (more ++ (mark ++ name)) ++ rest = mark ++ s := by
    simpa [List.append_assoc] using e
  rcases List.append_eq_append_iff.1 e' with ⟨part, hpart, -⟩ | ⟨longer, hplace, rfl⟩
  · have length := congrArg List.length hpart
    simp only [List.length_append] at length
    omega
  · have hlonger : longer ≠ [] := by
      rintro rfl
      have length := congrArg List.length hplace
      simp only [List.length_append, List.length_nil] at length
      omega
    have hlast := congrArg List.getLast? hplace
    rw [List.getLast?_append_of_ne_nil _ (List.append_ne_nil_of_right_ne_nil _ ne),
      List.getLast?_append_of_ne_nil _ ne, List.getLast?_append_of_ne_nil _ hlonger] at hlast
    exact ⟨longer, hlonger, rfl, hplace, hlast.symm⟩

/-- A comparison that is written is read with its value. What is read as its id and name is the
place that was written, even if it is split elsewhere. -/
theorem read?_comparison {id name before between value : List Char}
    (id_ne : id ≠ []) (id_newline : '\n' ∉ id) (id_quote : '\'' ∉ id)
    (name_ne : name ≠ []) (name_newline : '\n' ∉ name) (name_quote : '\'' ∉ name)
    (name_stop : ∀ c ∈ name.getLast?, isBlank c = false)
    (hbefore : ∀ c ∈ before, isBlank c = true) (hbetween : ∀ c ∈ between, isBlank c = true)
    (value_ne : value ≠ []) (value_newline : '\n' ∉ value) (value_quote : '\'' ∉ value)
    (after : List Char) :
    ∃ c, read? (opening ++ (id ++ (middle ++ (name ++ equalsQuoted before between value after)))) =
        some c ∧
      c.id ++ (middle ++ c.name) = id ++ (middle ++ name) ∧ c.expected = value := by
  let rest := equalsQuoted before between value after
  let next := fun s => (literal middle s).bind (shortestRun expected?)
  have hintended : next (middle ++ (name ++ rest)) = some (name, value) := by
    simp only [next, literal_append, Option.bind_some]
    exact shortestRun_expected? hbefore hbetween value_ne value_newline value_quote name_ne
      name_newline name_quote name_stop
  -- the id that is found is a part of the intended one, at its start
  obtain ⟨found, more, read, rfl, hread, hfound⟩ :=
    exists_shortestRun id_ne id_newline hintended
  obtain ⟨s, hs, hrun⟩ := Option.bind_eq_some_iff.1 hread
  obtain ⟨longer, hlonger, rfl, hplace, hlast⟩ :=
    exists_longer_name name_ne (literal_eq_some_iff.1 hs)
  -- what is taken for the name is made of parts of the place, so it can be one
  have hmiddle : '\n' ∉ middle ∧ '\'' ∉ middle := by decide +kernel
  have hplain : ∀ c, c ∉ found ++ more → c ∉ middle → c ∉ name → c ∉ longer := by
    intro c hid hmid hname hc
    have hmem : c ∈ more ++ (middle ++ name) := hplace ▸ List.mem_append_right _ hc
    simp only [List.mem_append, not_or] at hid hmem
    rcases hmem with h | h | h
    · exact hid.2 h
    · exact hmid h
    · exact hname h
  have hrest : shortestRun expected? (longer ++ rest) = some (longer, value) :=
    shortestRun_expected? hbefore hbetween value_ne value_newline value_quote hlonger
      (hplain _ id_newline hmiddle.1 name_newline) (hplain _ id_quote hmiddle.2 name_quote)
      (hlast ▸ name_stop)
  obtain rfl : read = (longer, value) := Option.some.inj (hrun.symm.trans hrest)
  refine ⟨⟨found, longer, value⟩, ?_, ?_, rfl⟩
  · rw [read?, literal_append]
    exact congrArg (Option.bind · _) hfound
  · rw [← hplace, List.append_assoc]

/-! ## In a guard -/

theorem unbordered_opening : Unbordered opening := by decide +kernel

/-- Nothing is read where the text up to the comparison does not open one. -/
theorem firstMatch_read?_append {start rest : List Char} {c : Comparison}
    (hstart : ¬opening <:+: start) (h : read? (opening ++ rest) = some c) :
    firstMatch read? (start ++ (opening ++ rest)) = some c := by
  apply firstMatch_append h
  rintro first last rfl hlast
  rw [read?, unbordered_opening.literal_eq_none hlast hstart rest]
  rfl

theorem toList_outputKey (id name : String) :
    (outputKey (some id) name).toList = opening ++ (id.toList ++ (middle ++ name.toList)) := by
  simp only [outputKey, Option.getD_some, String.toList_append, List.append_assoc]
  rfl

theorem toList_key (c : Comparison) :
    c.key.toList = opening ++ (c.id ++ (middle ++ c.name)) := by
  rw [key, toList_outputKey, String.toList_ofList, String.toList_ofList]

end Comparison

/-- Whether a text can be a part of a comparison: it is not empty and holds no newline and no single
quote. -/
@[mk_iff]
structure Quotable (s : String) : Prop where
  ne : s ≠ ""
  newline : '\n' ∉ s.toList
  quote : '\'' ∉ s.toList

instance (s : String) : Decidable (Quotable s) := decidable_of_iff _ (quotable_iff s).symm

/-- **A guard looks up the place that it names.** A guard that compares the place of an output with
a value in quotes holds exactly if that output is recorded with that value. The id and the name may
hold what the pattern looks for, the spaces around the equality signs may be any, and what comes
before may be anything that does not open a comparison. -/
theorem guardHolds_comparison_iff {id name value before between start : String}
    (hid : Quotable id) (hname : Quotable name)
    (name_stop : ∀ c ∈ name.toList.getLast?, isBlank c = false) (hvalue : Quotable value)
    (hbefore : ∀ c ∈ before.toList, isBlank c = true)
    (hbetween : ∀ c ∈ between.toList, isBlank c = true)
    (hstart : ¬"steps.".toList <:+: start.toList) (after : String)
    (outputs : Table String String) :
    guardHolds (some (start ++ outputKey (some id) name ++ before ++ "==" ++ between ++ "'" ++
        value ++ "'" ++ after)) outputs = true ↔
      outputs.get? (outputKey (some id) name) = some value := by
  generalize hguard : start ++ outputKey (some id) name ++ before ++ "==" ++ between ++ "'" ++
    value ++ "'" ++ after = guard
  have htext : guard.toList = start.toList ++ (Comparison.opening ++ (id.toList ++
      (Comparison.middle ++ (name.toList ++ Comparison.equalsQuoted before.toList between.toList
        value.toList after.toList)))) := by
    simp [← hguard, Comparison.toList_outputKey, Comparison.equalsQuoted]
  obtain ⟨c, hread, hplace, hexpected⟩ := Comparison.read?_comparison
    (by simpa using hid.ne) hid.newline hid.quote (by simpa using hname.ne) hname.newline
    hname.quote name_stop hbefore hbetween (by simpa using hvalue.ne) hvalue.newline hvalue.quote
    after.toList
  have hfirst : Comparison.first? guard = some c := by
    rw [Comparison.first?, htext]
    exact Comparison.firstMatch_read?_append hstart hread
  have hkey : c.key = outputKey (some id) name := by
    rw [← String.toList_inj, Comparison.toList_key, hplace, Comparison.toList_outputKey]
  have hne : guard ≠ "" := by
    rintro rfl
    have hnone : Comparison.first? "" = none := by decide +kernel
    exact absurd (hnone.symm.trans hfirst) (by simp)
  have hgiven : firstGiven [some guard] = some guard := if_neg hne
  rw [guardHolds, hgiven, Option.bind_some, hfirst]
  simp only [Comparison.holds, hkey, hexpected, String.ofList_toList, beq_iff_eq]

/-- Here the pattern takes `a` for the id and all the rest of the place for the name. -/
theorem guardHolds_nested_place :
    Quotable "a.outputs.b" ∧ Quotable "c=.outputs.steps.d" ∧
      (∀ c ∈ "c=.outputs.steps.d".toList.getLast?, isBlank c = false) ∧ Quotable "v == 1" ∧
      (∀ c ∈ "\n ".toList, isBlank c = true) ∧ (∀ c ∈ "".toList, isBlank c = true) ∧
      ¬"steps.".toList <:+: "!(".toList ∧
      ∀ outputs : Table String String,
        guardHolds (some ("!(" ++ outputKey (some "a.outputs.b") "c=.outputs.steps.d" ++ "\n " ++
            "==" ++ "" ++ "'" ++ "v == 1" ++ "'" ++ ") && steps.")) outputs = true ↔
          outputs.get? (outputKey (some "a.outputs.b") "c=.outputs.steps.d") = some "v == 1" := by
  have hid : Quotable "a.outputs.b" := by decide +kernel
  have hname : Quotable "c=.outputs.steps.d" := by decide +kernel
  have hlast : "c=.outputs.steps.d".toList.getLast? = some 'd' := by decide +kernel
  have hstop : ∀ c ∈ "c=.outputs.steps.d".toList.getLast?, isBlank c = false := by
    intro c hc
    obtain rfl : 'd' = c := Option.some.inj (hlast.symm.trans hc)
    decide
  have hvalue : Quotable "v == 1" := by decide +kernel
  have hbefore : ∀ c ∈ "\n ".toList, isBlank c = true :=
    List.all_eq_true.mp (by decide +kernel)
  have hbetween : ∀ c ∈ "".toList, isBlank c = true :=
    List.all_eq_true.mp (by decide +kernel)
  have hstart : ¬"steps.".toList <:+: "!(".toList := by decide +kernel
  exact ⟨hid, hname, hstop, hvalue, hbefore, hbetween, hstart, fun outputs =>
    guardHolds_comparison_iff hid hname hstop hvalue hbefore hbetween hstart ") && steps." outputs⟩

end ActionRehearsal
