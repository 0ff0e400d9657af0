import ActionRehearsal.Text.Search
import Mathlib.Data.List.Infix
import Mathlib.Data.List.TakeWhile

/-!
# What the matchers find

One equivalence for each building block of the patterns: `literal` succeeds where the text starts
with the given characters, `shortestRun` finds the shortest run that the matcher after it allows, and
`occursIn` is the infix relation; `firstMatch_append` says where `firstMatch` stops. Later proofs
use these statements and never open the matchers.

A mark that overlaps no shifted copy of itself (`Unbordered`) can only be read where it was
written: `Unbordered.literal_eq_none` is how a search is shown to pass over what stands before it.
-/

set_option autoImplicit false

namespace ActionRehearsal.Text

variable {α : Type}

/-! ## Literals -/

/-- A literal is read exactly where the text starts with it. -/
theorem literal_eq_some_iff {expected s rest : List Char} :
    literal expected s = some rest ↔ s = expected ++ rest := by
  induction expected generalizing s with
  | nil => simp [literal]
  | cons e expected ih =>
      cases s with
      | nil => simp [literal]
      | cons c s =>
          by_cases h : e = c
          · subst h
            simp [literal, ih]
          · have h' : ¬c = e := fun eq => h eq.symm
            simp [literal, h, h']

@[simp] theorem literal_append (expected rest : List Char) :
    literal expected (expected ++ rest) = some rest :=
  literal_eq_some_iff.2 rfl

@[simp] theorem literal_self (expected : List Char) : literal expected expected = some [] :=
  literal_eq_some_iff.2 (List.append_nil expected).symm

/-- A literal fails exactly where the text does not start with it. -/
theorem literal_eq_none_iff {expected s : List Char} :
    literal expected s = none ↔ ¬expected <+: s := by
  rw [Option.eq_none_iff_forall_ne_some]
  constructor
  · rintro h ⟨rest, rfl⟩
    exact h rest (literal_append expected rest)
  · intro h rest eq
    exact h ⟨rest, (literal_eq_some_iff.1 eq).symm⟩

/-! ## Blank characters -/

/-- Blank characters before a text are passed over. -/
theorem skipBlank_append {blank : List Char} (h : ∀ c ∈ blank, isBlank c = true)
    (s : List Char) : skipBlank (blank ++ s) = skipBlank s :=
  List.dropWhile_append_of_pos h

/-- Nothing is passed over before a character that is not blank. -/
theorem skipBlank_cons {c : Char} (h : isBlank c = false) (s : List Char) :
    skipBlank (c :: s) = c :: s :=
  List.dropWhile_cons_of_neg (by simp [h])

/-- What is passed over are blank characters. -/
theorem exists_eq_append_skipBlank (s : List Char) :
    ∃ blank, s = blank ++ skipBlank s ∧ ∀ c ∈ blank, isBlank c = true :=
  ⟨s.takeWhile isBlank, List.takeWhile_append_dropWhile.symm,
    fun _ hc => List.mem_takeWhile_imp hc⟩

/-! ## Shortest runs -/

/-- Whether a run is the shortest one before a rest that `next` accepts: every shorter run leaves
something that `next` does not accept. -/
def IsShortest (next : List Char → Option α) (run rest : List Char) : Prop :=
  ∀ first last, run = first ++ last → first ≠ [] → last ≠ [] → next (last ++ rest) = none

theorem isShortest_singleton (next : List Char → Option α) (c : Char) (rest : List Char) :
    IsShortest next [c] rest := by
  intro first last e hfirst hlast
  have length := congrArg List.length e
  have := List.length_pos_of_ne_nil hfirst
  have := List.length_pos_of_ne_nil hlast
  simp only [List.length_singleton, List.length_append] at length
  omega

/-- A longer run is shortest if the run of one character leaves nothing that is accepted, and the
run without its first character is shortest. -/
theorem isShortest_cons_cons {next : List Char → Option α} {c d : Char} {run rest : List Char} :
    IsShortest next (c :: d :: run) rest ↔
      next (d :: run ++ rest) = none ∧ IsShortest next (d :: run) rest := by
  constructor
  · intro h
    refine ⟨h [c] (d :: run) rfl (by simp) (by simp), ?_⟩
    intro first last e hfirst hlast
    exact h (c :: first) last (by rw [e]; rfl) (by simp) hlast
  · rintro ⟨one, more⟩ first last e hfirst hlast
    cases first with
    | nil => exact absurd rfl hfirst
    | cons b first =>
        obtain ⟨rfl, tails⟩ := List.cons_eq_cons.1 (e.trans List.cons_append)
        cases first with
        | nil =>
            rw [List.nil_append] at tails
            rw [← tails]
            exact one
        | cons b first => exact more (b :: first) last tails (by simp) hlast

/-- A run that is found is not empty, holds no newline, has after it what `next` accepts, and is the
shortest such one. -/
theorem exists_of_shortestRun_eq_some {next : List Char → Option α} {s run : List Char} {a : α}
    (h : shortestRun next s = some (run, a)) :
    run ≠ [] ∧ '\n' ∉ run ∧
      ∃ rest, s = run ++ rest ∧ next rest = some a ∧ IsShortest next run rest := by
  induction s generalizing run with
  | nil => cases h
  | cons c s ih =>
      by_cases hc : c = '\n'
      · simp [shortestRun, hc] at h
      · have plain : '\n' ≠ c := fun e => hc e.symm
        rw [shortestRun, if_neg hc] at h
        cases one : next s with
        | some b =>
            simp only [one, Option.some.injEq, Prod.mk.injEq] at h
            obtain ⟨rfl, rfl⟩ := h
            exact ⟨by simp, by simpa using plain, s, rfl, one, isShortest_singleton next c s⟩
        | none =>
            simp only [one, Option.map_eq_some_iff, Prod.mk.injEq] at h
            obtain ⟨⟨found, b⟩, hfound, rfl, rfl⟩ := h
            obtain ⟨ne, newline, rest, rfl, hrest, shortest⟩ := ih hfound
            refine ⟨by simp, List.not_mem_cons_of_ne_of_not_mem plain newline, rest, rfl, hrest, ?_⟩
            cases found with
            | nil => exact absurd rfl ne
            | cons d found => exact isShortest_cons_cons.2 ⟨one, shortest⟩

/-- The shortest run that leaves what `next` accepts is found. -/
theorem shortestRun_append {next : List Char → Option α} {run rest : List Char} {a : α}
    (ne : run ≠ []) (newline : '\n' ∉ run) (hrest : next rest = some a)
    (shortest : IsShortest next run rest) : shortestRun next (run ++ rest) = some (run, a) := by
  induction run with
  | nil => exact absurd rfl ne
  | cons c run ih =>
      have hc : c ≠ '\n' := fun e => newline (by simp [e])
      rw [List.cons_append, shortestRun, if_neg hc]
      cases run with
      | nil => simp only [List.nil_append, hrest]
      | cons d run =>
          obtain ⟨one, more⟩ := isShortest_cons_cons.1 shortest
          have found := ih (by simp) (List.not_mem_of_not_mem_cons newline) more
          simp only [one, found, Option.map_some]

/-- A run is found exactly if it is the shortest one, not empty and without a newline, after which
`next` accepts what follows. -/
theorem shortestRun_eq_some_iff {next : List Char → Option α} {s run : List Char} {a : α} :
    shortestRun next s = some (run, a) ↔
      run ≠ [] ∧ '\n' ∉ run ∧
        ∃ rest, s = run ++ rest ∧ next rest = some a ∧ IsShortest next run rest := by
  constructor
  · exact exists_of_shortestRun_eq_some
  · rintro ⟨ne, newline, rest, rfl, hrest, shortest⟩
    exact shortestRun_append ne newline hrest shortest

/-- Where some run can be taken, one is found that is no longer. -/
theorem exists_shortestRun {next : List Char → Option α} {run rest : List Char} {a : α}
    (ne : run ≠ []) (plain : '\n' ∉ run) (h : next rest = some a) :
    ∃ found more b, run = found ++ more ∧ next (more ++ rest) = some b ∧
      shortestRun next (run ++ rest) = some (found, b) := by
  induction run with
  | nil => exact absurd rfl ne
  | cons c run ih =>
      have hc : c ≠ '\n' := fun e => plain (by simp [e])
      rw [List.cons_append, shortestRun, if_neg hc]
      cases hn : next (run ++ rest) with
      | some b => exact ⟨[c], run, b, rfl, hn, rfl⟩
      | none =>
          -- the run does not end here, for what follows it is accepted
          have hrun : run ≠ [] := by
            rintro rfl
            simp [h] at hn
          obtain ⟨found, more, b, rfl, hb, hfound⟩ :=
            ih hrun fun e => plain (List.mem_cons_of_mem _ e)
          refine ⟨c :: found, more, b, rfl, hb, ?_⟩
          simp only [hfound, Option.map_some]

/-- A run up to a single character: it holds that character at most as its first one. -/
theorem shortestRun_char_iff {mark : Char} {s run rest : List Char} :
    shortestRun (literal [mark]) s = some (run, rest) ↔
      run ≠ [] ∧ '\n' ∉ run ∧ mark ∉ run.tail ∧ s = run ++ mark :: rest := by
  rw [shortestRun_eq_some_iff]
  constructor
  · rintro ⟨ne, plain, after, rfl, hafter, hmin⟩
    obtain rfl := literal_eq_some_iff.1 hafter
    refine ⟨ne, plain, ?_, rfl⟩
    cases run with
    | nil => exact absurd rfl ne
    | cons c run =>
        intro hmark
        obtain ⟨first, last, rfl⟩ := List.append_of_mem hmark
        have hnone := hmin (c :: first) (mark :: last) rfl (by simp) (by simp)
        have hsome := literal_append [mark] (last ++ ([mark] ++ rest))
        exact absurd (hnone.symm.trans hsome) (by simp)
  · rintro ⟨ne, plain, absent, rfl⟩
    refine ⟨ne, plain, mark :: rest, rfl, literal_append [mark] rest, ?_⟩
    rintro first last rfl hfirst hlast
    cases last with
    | nil => exact absurd rfl hlast
    | cons d last =>
        rw [literal_eq_none_iff, List.cons_append, List.cons_prefix_cons]
        rintro ⟨rfl, -⟩
        exact absent (by rw [List.tail_append_of_ne_nil hfirst]; simp)

/-! ## Leftmost places -/

/-- A match at the start is the leftmost one. -/
theorem firstMatch_of_eq_some {matcher : List Char → Option α} {s : List Char} {a : α}
    (h : matcher s = some a) : firstMatch matcher s = some a := by
  cases s with
  | nil => exact h
  | cons c s => rw [firstMatch, h]

/-- The leftmost match is the one after a text within which no match starts. -/
theorem firstMatch_append {matcher : List Char → Option α} {before rest : List Char} {a : α}
    (h : matcher rest = some a)
    (absent : ∀ first last, before = first ++ last → last ≠ [] → matcher (last ++ rest) = none) :
    firstMatch matcher (before ++ rest) = some a := by
  induction before with
  | nil => exact firstMatch_of_eq_some h
  | cons c before ih =>
      have here : matcher (c :: (before ++ rest)) = none := absent [] (c :: before) rfl (by simp)
      have later : firstMatch matcher (before ++ rest) = some a := by
        apply ih
        intro first last e hlast
        exact absent (c :: first) last (by rw [e]; rfl) hlast
      rw [List.cons_append, firstMatch, here, later]

/-- What is found is read at some place, and nothing is read further left. -/
theorem exists_split_of_firstMatch_eq_some {matcher : List Char → Option α} {s : List Char} {a : α}
    (h : firstMatch matcher s = some a) :
    ∃ before rest, s = before ++ rest ∧ matcher rest = some a ∧
      ∀ first last, before = first ++ last → last ≠ [] → matcher (last ++ rest) = none := by
  induction s with
  | nil =>
      refine ⟨[], [], rfl, h, ?_⟩
      intro first last e hlast
      exact absurd (List.append_eq_nil_iff.1 e.symm).2 hlast
  | cons c s ih =>
      rw [firstMatch] at h
      cases here : matcher (c :: s) with
      | some b =>
          rw [here] at h
          refine ⟨[], c :: s, rfl, here.trans h, ?_⟩
          intro first last e hlast
          exact absurd (List.append_eq_nil_iff.1 e.symm).2 hlast
      | none =>
          rw [here] at h
          obtain ⟨before, rest, rfl, found, absent⟩ := ih h
          refine ⟨c :: before, rest, rfl, found, ?_⟩
          intro first last e hlast
          cases first with
          | nil =>
              rw [List.nil_append] at e
              rw [← e]
              exact here
          | cons d first => exact absent first last (List.cons_eq_cons.1 e).2 hlast

/-- What is found is read at some place. -/
theorem exists_of_firstMatch_eq_some {matcher : List Char → Option α} {s : List Char} {a : α}
    (h : firstMatch matcher s = some a) : ∃ rest, rest <:+ s ∧ matcher rest = some a := by
  obtain ⟨before, rest, rfl, found, -⟩ := exists_split_of_firstMatch_eq_some h
  exact ⟨rest, List.suffix_append before rest, found⟩

/-- Nothing is found exactly if nothing is read at any place. -/
theorem firstMatch_eq_none_iff {matcher : List Char → Option α} {s : List Char} :
    firstMatch matcher s = none ↔ ∀ rest, rest <:+ s → matcher rest = none := by
  induction s with
  | nil => simp [firstMatch]
  | cons c s ih =>
      rw [firstMatch]
      cases here : matcher (c :: s) with
      | some a =>
          constructor
          · intro found
            cases found
          · intro nowhere
            have absent := nowhere _ List.suffix_rfl
            rw [here] at absent
            cases absent
      | none =>
          rw [ih]
          constructor
          · intro later rest hrest
            rcases List.suffix_cons_iff.1 hrest with rfl | hrest
            · exact here
            · exact later rest hrest
          · exact fun nowhere rest hrest => nowhere rest (hrest.trans (List.suffix_cons c s))

/-! ## Occurrences -/

/-- Searching for a part decides whether it is a run of consecutive characters. -/
theorem occursIn_iff {part s : List Char} : occursIn part s = true ↔ part <:+: s := by
  induction s with
  | nil => simp [occursIn]
  | cons c s ih => simp [occursIn, ih, List.infix_cons_iff]

/-- A part without some character occurs on one side of it, if at all. -/
theorem infix_append_cons_iff {part before after : List α} {c : α} (absent : c ∉ part) :
    part <:+: before ++ c :: after ↔ part <:+: before ∨ part <:+: after := by
  constructor
  · intro h
    -- a part on both sides would hold the character
    rcases List.infix_append_iff.1 h with h | h | ⟨left, right, rfl, hleft, hright⟩
    · exact Or.inl h
    · rcases List.infix_cons_iff.1 h with h | h
      · rcases List.prefix_cons_iff.1 h with rfl | ⟨rest, rfl, -⟩
        · exact Or.inl (List.nil_infix)
        · exact absurd List.mem_cons_self absent
      · exact Or.inr h
    · rcases List.prefix_cons_iff.1 hright with rfl | ⟨rest, rfl, -⟩
      · rw [List.append_nil]
        exact Or.inl hleft.isInfix
      · exact absurd (List.mem_append_right _ List.mem_cons_self) absent
  · rintro (h | h)
    · exact List.infix_append_of_infix_left h
    · exact List.infix_append_of_infix_right (List.infix_cons h)

/-- A part without some character that a text starts with ends before that character. -/
theorem prefix_of_prefix_append_cons {part before after : List α} {c : α} (absent : c ∉ part)
    (h : part <+: before ++ c :: after) : part <+: before := by
  rcases List.prefix_or_prefix_of_prefix h (List.prefix_append before _) with h' | ⟨more, rfl⟩
  · exact h'
  · -- the part would go on with the character
    rw [List.prefix_append_right_inj] at h
    rcases List.prefix_cons_iff.1 h with rfl | ⟨rest, rfl, -⟩
    · rw [List.append_nil]
    · exact absurd (List.mem_append_right _ List.mem_cons_self) absent

/-- A text is split in only one way at the first place where a character stands. -/
theorem append_cons_inj_of_first {before before' after after' : List α} {c : α}
    (absent : c ∉ before) (absent' : c ∉ before') (e : before ++ c :: after = before' ++ c :: after') :
    before = before' ∧ after = after' := by
  induction before generalizing before' with
  | nil =>
      cases before' with
      | nil => exact ⟨rfl, List.tail_eq_of_cons_eq e⟩
      | cons d before' =>
          obtain rfl : c = d := List.head_eq_of_cons_eq e
          exact absurd List.mem_cons_self absent'
  | cons d before ih =>
      cases before' with
      | nil =>
          obtain rfl : d = c := List.head_eq_of_cons_eq e
          exact absurd List.mem_cons_self absent
      | cons d' before' =>
          obtain rfl : d = d' := List.head_eq_of_cons_eq e
          obtain ⟨rfl, rfl⟩ := ih (List.not_mem_of_not_mem_cons absent)
            (List.not_mem_of_not_mem_cons absent') (List.tail_eq_of_cons_eq e)
          exact ⟨rfl, rfl⟩

/-- Whether no part of the mark at its end is also a part of it at its start, itself and nothing
apart: shifted copies of the mark do not overlap. -/
def Unbordered (mark : List Char) : Prop :=
  ∀ part ∈ mark.tails, part <+: mark → part = [] ∨ part = mark

instance (mark : List Char) : Decidable (Unbordered mark) :=
  inferInstanceAs (Decidable (∀ part ∈ mark.tails, part <+: mark → part = [] ∨ part = mark))

/-- Where a mark is written, it cannot be read earlier, unless the text before holds it. -/
theorem Unbordered.literal_eq_none {mark first last : List Char} (h : Unbordered mark)
    (ne : last ≠ []) (absent : ¬mark <:+: first ++ last) (rest : List Char) :
    literal mark (last ++ (mark ++ rest)) = none := by
  have hlast : ¬mark <+: last := fun p =>
    absent (p.isInfix.trans (List.suffix_append first last).isInfix)
  rw [literal_eq_none_iff]
  rintro ⟨after, e⟩
  -- a mark read here ends within `last`, or else it goes on into the one that was written
  rcases List.append_eq_append_iff.1 e with ⟨more, rfl, -⟩ | ⟨part, rfl, e⟩
  · exact hlast (List.prefix_append mark more)
  · -- and what it has in common with that one is a part of the mark at both of its ends
    have hwhole : last ++ part <+: part ++ after := by
      rw [← e]
      exact List.prefix_append _ _
    have hpart : part <+: last ++ part :=
      List.prefix_of_prefix_length_le (List.prefix_append part after) hwhole (by simp)
    rcases h part ((List.mem_tails _ _).2 (List.suffix_append _ _)) hpart with rfl | hself
    · exact hlast (by simp)
    · exact ne (List.append_left_eq_self.1 hself.symm)

end ActionRehearsal.Text

/-- A string holds another exactly if its characters are a run among its own. -/
theorem String.holds_iff {s part : String} :
    s.holds part = true ↔ part.toList <:+: s.toList :=
  ActionRehearsal.Text.occursIn_iff
