import ActionRehearsal.Text.Blank
import ActionRehearsal.Text.Lines
import Mathlib.Data.List.DropRight

/-!
# Splitting and trimming

Joining with a character undoes splitting at it (`joinWith_splitAtEach`), and splitting undoes joining
for pieces that do not hold it (`splitAtEach_joinWith`).

Trimming takes blank characters off a text and nothing else (`exists_eq_append_trim`). It changes only a
text that is blank at one of its ends (`trim_eq_self`), and does not see blank characters put around
one (`trim_append`).

The lines of a document hold no boundary (`not_isBoundary_of_mem_boundaryLines`), and what holds none
lies within one line, wherever it stands (`infix_iff_exists_line`).
-/

set_option autoImplicit false

namespace ActionRehearsal.Text

/-! ## Splitting and joining -/

/-- A text without the mark is one piece. -/
theorem splitAtEach_of_not_mem {mark : Char} {piece : List Char} (h : mark ∉ piece) :
    splitAtEach mark piece = [piece] := by
  induction piece with
  | nil => rfl
  | cons c piece ih =>
      have hc : c ≠ mark := (List.ne_of_not_mem_cons h).symm
      rw [splitAtEach, if_neg hc, ih (List.not_mem_of_not_mem_cons h)]

/-- The first piece ends at the first mark. -/
theorem splitAtEach_append_cons {mark : Char} {piece : List Char} (h : mark ∉ piece)
    (rest : List Char) :
    splitAtEach mark (piece ++ mark :: rest) = piece :: splitAtEach mark rest := by
  induction piece with
  | nil => rw [List.nil_append, splitAtEach, if_pos rfl]
  | cons c piece ih =>
      have hc : c ≠ mark := (List.ne_of_not_mem_cons h).symm
      rw [List.cons_append, splitAtEach, if_neg hc, ih (List.not_mem_of_not_mem_cons h)]

theorem joinWith_cons_cons (mark : Char) (piece second : List Char) (pieces : List (List Char)) :
    joinWith mark (piece :: second :: pieces) =
      piece ++ mark :: joinWith mark (second :: pieces) := rfl

/-- Joining with a mark is joining with the text that the mark alone is. -/
theorem joinWith_eq_intercalate (mark : Char) (pieces : List (List Char)) :
    joinWith mark pieces = [mark].intercalate pieces := by
  induction pieces with
  | nil => rfl
  | cons piece pieces ih =>
      cases pieces with
      | nil => exact List.intercalate_singleton.symm
      | cons second pieces => simp [joinWith_cons_cons, ih, List.intercalate_cons_cons]

/-- Texts joined by newlines are joined so as their characters are. -/
theorem toList_intercalate_newline (lines : List String) :
    ("\n".intercalate lines).toList = joinWithNewlines (lines.map String.toList) := by
  rw [String.toList_intercalate]
  exact (joinWith_eq_intercalate '\n' _).symm

/-- Splitting undoes joining for pieces without the mark, if there are any. -/
theorem splitAtEach_joinWith {mark : Char} {pieces : List (List Char)} (ne : pieces ≠ [])
    (h : ∀ piece ∈ pieces, mark ∉ piece) : splitAtEach mark (joinWith mark pieces) = pieces := by
  induction pieces with
  | nil => exact absurd rfl ne
  | cons piece pieces ih =>
      have hpiece : mark ∉ piece := h piece List.mem_cons_self
      cases pieces with
      | nil => exact splitAtEach_of_not_mem hpiece
      | cons second pieces =>
          have hrest := ih (by simp) fun p hp => h p (List.mem_cons_of_mem _ hp)
          rw [joinWith_cons_cons, splitAtEach_append_cons hpiece, hrest]

theorem splitAtEach_ne_nil (mark : Char) (text : List Char) : splitAtEach mark text ≠ [] := by
  fun_cases splitAtEach mark text with
  | case1 => exact List.cons_ne_nil _ _
  | case2 rest => exact List.cons_ne_nil _ _
  | case3 c rest other none => exact List.cons_ne_nil _ _
  | case4 c rest other piece pieces found => exact List.cons_ne_nil _ _

/-- The pieces of a text do not hold the mark. -/
theorem not_mem_of_mem_splitAtEach {mark : Char} {text : List Char} :
    ∀ piece ∈ splitAtEach mark text, mark ∉ piece := by
  fun_induction splitAtEach mark text with
  | case1 => simp
  | case2 rest ih => exact List.forall_mem_cons.2 ⟨List.not_mem_nil, ih⟩
  | case3 c rest other none ih => exact absurd none (splitAtEach_ne_nil mark rest)
  | case4 c rest other piece pieces found ih =>
      rw [found] at ih
      obtain ⟨first, later⟩ := List.forall_mem_cons.1 ih
      exact List.forall_mem_cons.2 ⟨List.not_mem_cons_of_ne_of_not_mem (Ne.symm other) first, later⟩

/-- Joining undoes splitting. -/
theorem joinWith_splitAtEach (mark : Char) (text : List Char) :
    joinWith mark (splitAtEach mark text) = text := by
  fun_induction splitAtEach mark text with
  | case1 => rfl
  | case2 rest ih =>
      cases pieces : splitAtEach mark rest with
      | nil => exact absurd pieces (splitAtEach_ne_nil mark rest)
      | cons piece more => rw [joinWith_cons_cons, ← pieces, ih, List.nil_append]
  | case3 c rest other none ih => exact absurd none (splitAtEach_ne_nil mark rest)
  | case4 c rest other piece pieces found ih =>
      rw [found] at ih
      cases pieces with
      | nil => exact congrArg (c :: ·) ih
      | cons second pieces => exact congrArg (c :: ·) ih

/-! ## Lines of a document -/

/-- The first line of a text goes up to its first boundary. -/
theorem head?_boundaryLines {text : List Char} (ne : text ≠ []) :
    (boundaryLines text).head? = some (text.takeWhile fun c => !isBoundary c) := by
  fun_induction boundaryLines text with
  | case1 => exact absurd rfl ne
  | case2 rest ih => rfl
  | case3 c rest _ boundary ih => simp [boundary]
  | case4 c rest _ plain empty ih =>
      -- only the empty text has no lines
      cases rest with
      | nil => simp [plain]
      | cons d rest =>
          have first := ih (by simp)
          rw [empty] at first
          cases first
  | case5 c rest _ plain line lines found ih =>
      cases rest with
      | nil => cases found
      | cons d rest =>
          have first := ih (by simp)
          rw [found] at first
          simpa [plain] using first

/-- No line of a document holds a boundary. -/
theorem not_isBoundary_of_mem_boundaryLines {text : List Char} :
    ∀ line ∈ boundaryLines text, ∀ c ∈ line, isBoundary c = false := by
  have nothing : ∀ c ∈ ([] : List Char), isBoundary c = false := fun c mem => absurd mem List.not_mem_nil
  fun_induction boundaryLines text with
  | case1 => exact fun line mem => absurd mem List.not_mem_nil
  | case2 rest ih => exact List.forall_mem_cons.2 ⟨nothing, ih⟩
  | case3 c rest _ boundary ih => exact List.forall_mem_cons.2 ⟨nothing, ih⟩
  | case4 c rest _ plain empty ih =>
      rw [List.forall_mem_singleton, List.forall_mem_singleton]
      exact Bool.eq_false_iff.2 plain
  | case5 c rest _ plain line lines found ih =>
      rw [found] at ih
      obtain ⟨first, later⟩ := List.forall_mem_cons.1 ih
      have longer : ∀ d ∈ c :: line, isBoundary d = false :=
        List.forall_mem_cons.2 ⟨Bool.eq_false_iff.2 plain, first⟩
      exact List.forall_mem_cons.2 ⟨longer, later⟩

theorem prefix_takeWhile_iff {α : Type} {p : α → Bool} {part s : List α}
    (all : ∀ a ∈ part, p a = true) : part <+: s.takeWhile p ↔ part <+: s := by
  constructor
  · exact fun starts => starts.trans (List.takeWhile_prefix p)
  · rintro ⟨rest, rfl⟩
    rw [List.takeWhile_append_of_pos all]
    exact List.prefix_append part _

/-- Whether a text is free of boundaries can be computed. -/
theorem not_isBoundary_of_any {chars : List Char} (h : chars.any isBoundary = false) :
    ∀ c ∈ chars, isBoundary c = false := by
  intro c mem
  rw [← Bool.not_eq_true]
  exact List.any_eq_false.1 h c mem

/-- A part without boundaries stands in a text exactly if it stands in one of its lines. -/
theorem infix_iff_exists_line {part text : List Char} (ne : part ≠ [])
    (plain : ∀ c ∈ part, isBoundary c = false) :
    part <:+: text ↔ ∃ line ∈ boundaryLines text, part <:+: line := by
  have nowhere : ¬part <:+: [] := fun h => ne (List.eq_nil_of_infix_nil h)
  have not_here {c : Char} (boundary : isBoundary c = true) (rest : List Char) :
      ¬part <+: c :: rest := by
    intro starts
    rcases List.prefix_cons_iff.1 starts with empty | ⟨more, rfl, -⟩
    · exact ne empty
    · rw [plain c List.mem_cons_self] at boundary
      cases boundary
  fun_induction boundaryLines text with
  | case1 => simp only [nowhere, List.not_mem_nil, false_and, exists_false]
  | case2 rest ih =>
      have not_return : ¬part <+: '\r' :: '\n' :: rest := not_here rfl _
      have not_newline : ¬part <+: '\n' :: rest := not_here rfl _
      simp only [List.infix_cons_iff, not_return, not_newline, false_or, ih, List.exists_mem_cons_iff,
        nowhere]
  | case3 c rest _ boundary ih =>
      simp only [List.infix_cons_iff, not_here boundary, false_or, ih, List.exists_mem_cons_iff, nowhere]
  | case4 c rest _ _ empty ih =>
      cases rest with
      | nil => simp only [List.exists_mem_cons_iff, List.not_mem_nil, false_and, exists_false, or_false]
      | cons d rest =>
          have first := head?_boundaryLines (List.cons_ne_nil d rest)
          rw [empty] at first
          cases first
  | case5 c rest _ _ line lines found ih =>
      cases rest with
      | nil => cases found
      | cons d rest =>
          -- what starts here and holds no boundary ends within the first line
          have here : part <+: c :: d :: rest ↔ part <+: c :: line := by
            have first := head?_boundaryLines (List.cons_ne_nil d rest)
            rw [found, List.head?_cons, Option.some_inj] at first
            rw [first, List.prefix_cons_iff, List.prefix_cons_iff]
            refine or_congr_right (exists_congr fun more => and_congr_right fun split => ?_)
            refine (prefix_takeWhile_iff fun a mem => ?_).symm
            rw [plain a (split ▸ List.mem_cons_of_mem c mem)]
            rfl
          have whole : part <:+: c :: d :: rest ↔ part <+: c :: line ∨ part <:+: d :: rest := by
            rw [List.infix_cons_iff, here]
          simp only [whole, ih, found, List.exists_mem_cons_iff, List.infix_cons_iff, or_assoc]

/-! ## Trimming -/

/-- A text that is not blank at either end is its own trimmed form. -/
theorem trim_eq_self {s : List Char} (start : ∀ c ∈ s.head?, isBlank c = false)
    (stop : ∀ c ∈ s.getLast?, isBlank c = false) : trim s = s := by
  have hstart : trimStart s = s := by
    cases s with
    | nil => rfl
    | cons c s => exact List.dropWhile_cons_of_neg (by simp [start c rfl])
  have hstop : trimEnd s = s := by
    refine List.rdropWhile_eq_self_iff.2 fun hs => ?_
    simp [stop _ (List.getLast?_eq_getLast_of_ne_nil hs)]
  rw [trim, hstart, hstop]

/-- A trimmed text does not start with a blank character. -/
theorem isBlank_of_mem_head?_trim {s : List Char} : ∀ c ∈ (trim s).head?, isBlank c = false := by
  intro c mem
  -- trimming the end leaves a start of what is trimmed at the start
  obtain ⟨more, e⟩ : trim s <+: s.dropWhile isBlank := List.rdropWhile_prefix isBlank _
  have first : (s.dropWhile isBlank).head? = some c := by
    rw [← e, List.head?_append, Option.mem_def.1 mem]
    rfl
  have plain := List.head?_dropWhile_not isBlank s
  rw [first] at plain
  exact plain

/-- Nor does it end with one. -/
theorem isBlank_of_mem_getLast?_trim {s : List Char} :
    ∀ c ∈ (trim s).getLast?, isBlank c = false := by
  intro c mem
  obtain ⟨ne, rfl⟩ := List.mem_getLast?_eq_getLast mem
  have plain : ¬isBlank ((trim s).getLast ne) = true := List.rdropWhile_last_not isBlank _ ne
  exact Bool.not_eq_true _ ▸ plain

/-- Nothing is left of a text exactly if it is blank. -/
theorem trim_eq_nil_iff {s : List Char} : trim s = [] ↔ ∀ c ∈ s, isBlank c = true := by
  have stop : trim s = [] ↔ ∀ c ∈ s.dropWhile isBlank, isBlank c = true :=
    List.rdropWhile_eq_nil_iff
  rw [stop]
  constructor
  · intro blank
    have whole : s.dropWhile isBlank = [] := by
      rw [← List.dropWhile_eq_nil_iff, List.dropWhile_idempotent] at blank
      exact blank
    exact List.dropWhile_eq_nil_iff.1 whole
  · intro blank c mem
    exact blank c ((List.dropWhile_sublist _).subset mem)

/-- A text is its trimmed form with blank characters around it. -/
theorem exists_eq_append_trim (s : List Char) :
    ∃ before after, (∀ c ∈ before, isBlank c = true) ∧ (∀ c ∈ after, isBlank c = true) ∧
      s = before ++ trim s ++ after := by
  refine ⟨s.takeWhile isBlank, (trimStart s).rtakeWhile isBlank,
    fun c => List.mem_takeWhile_imp, fun c => List.mem_rtakeWhile_imp, ?_⟩
  have stop : trim s ++ (trimStart s).rtakeWhile isBlank = trimStart s :=
    List.rdropWhile_append_rtakeWhile
  rw [List.append_assoc, stop]
  exact List.takeWhile_append_dropWhile.symm

/-- Blank characters around a text do not change its trimmed form. -/
theorem trim_append {before after : List Char} (hbefore : ∀ c ∈ before, isBlank c = true)
    (hafter : ∀ c ∈ after, isBlank c = true) (s : List Char) :
    trim (before ++ s ++ after) = trim s := by
  have stop (s : List Char) : trimEnd (s ++ after) = trimEnd s := by
    have blank : ∀ c ∈ after.reverse, isBlank c = true := by simpa using hafter
    rw [trimEnd, List.reverse_append, List.dropWhile_append_of_pos blank, trimEnd]
  have start : trimStart (before ++ s ++ after) = trimStart (s ++ after) := by
    rw [trimStart, List.append_assoc, List.dropWhile_append_of_pos hbefore, trimStart]
  rw [trim, trim, start, trimStart, List.dropWhile_append]
  split
  · -- the whole text is blank
    rename_i empty
    rw [List.dropWhile_eq_nil_iff.2 hafter, trimStart, List.isEmpty_iff.1 empty]
  · exact stop _

/-- Trimming a second time changes nothing. -/
theorem trim_trim (s : List Char) : trim (trim s) = trim s :=
  trim_eq_self isBlank_of_mem_head?_trim isBlank_of_mem_getLast?_trim

/-- A text that does not start blank is trimmed at its end alone. -/
theorem trim_cons {c : Char} (plain : isBlank c = false) (s : List Char) :
    trim (c :: s) = c :: trimEnd s := by
  have start : trimStart (c :: s) = c :: s := List.dropWhile_cons_of_neg (by simp [plain])
  have first : [c].dropWhile isBlank = [c] := List.dropWhile_cons_of_neg (by simp [plain])
  rw [trim, start, trimEnd, List.reverse_cons, List.dropWhile_append, first, trimEnd]
  split
  · rename_i empty
    rw [List.isEmpty_iff.1 empty]
    rfl
  · rw [List.reverse_append]
    rfl

theorem trimmed_eq_empty_iff {s : String} : trimmed s = "" ↔ ∀ c ∈ s.toList, isBlank c = true := by
  rw [trimmed, ← String.toList_inj, String.toList_ofList, String.toList_empty, trim_eq_nil_iff]

end ActionRehearsal.Text
