import ActionRehearsal.Number.Numeral
import Mathlib.Data.List.DropRight

/-!
# Numerals of digits

A text of decimal digits has no white space, sign or base mark, so reading it as a whole number takes all of
it. It fails only if there are too many digits (`readInteger_of_digits`).
-/

set_option autoImplicit false

namespace ActionRehearsal.Number

/-- What holds of the ten decimal digits holds of every character that is one. -/
theorem of_isDigit {p : Char → Prop} (all : ∀ n < 10, p (Char.ofNat (48 + n))) {c : Char}
    (digit : c.isDigit = true) : p c := by
  obtain ⟨low, high⟩ : 48 ≤ c.toNat ∧ c.toNat ≤ 57 := Char.isDigit_iff_toNat.1 digit
  have here := all (c.toNat - 48) (by omega)
  have code : 48 + (c.toNat - 48) = c.toNat := by omega
  rwa [code, Char.ofNat_toNat] at here

theorem dropBaseMark_ten (s : List Char) : dropBaseMark 10 s = s := by
  unfold dropBaseMark
  split
  · rfl
  · rfl

section Digits

variable {run : List Char} (digits : ∀ c ∈ run, c.isDigit = true)
include digits

theorem unpadded_of_digits : unpadded run = run := by
  have plain : ∀ c ∈ run, isPadding c = false := fun c mem =>
    of_isDigit (p := fun c => isPadding c = false) (by decide) (digits c mem)
  have kept {s : List Char} (sub : ∀ c ∈ s, c ∈ run) : s.dropWhile isPadding = s := by
    cases s with
    | nil => rfl
    | cons c s => exact List.dropWhile_cons_of_neg (by simp [plain c (sub c List.mem_cons_self)])
  rw [unpadded, kept fun c mem => mem, kept fun c mem => List.mem_reverse.1 mem, List.reverse_reverse]

theorem splitSign_of_digits : splitSign run = (false, run) := by
  cases run with
  | nil => rfl
  | cons c rest =>
      have apart : c ≠ '-' ∧ c ≠ '+' :=
        of_isDigit (p := fun c => c ≠ '-' ∧ c ≠ '+') (by decide) (digits c List.mem_cons_self)
      simp [splitSign, apart.1, apart.2]

theorem length_digits :
    ((run.takeWhile fun c => (digitIn? 10 c).isSome).filterMap (digitIn? 10)).length = run.length := by
  have known : ∀ c ∈ run, (digitIn? 10 c).isSome = true := fun c mem =>
    of_isDigit (p := fun c => (digitIn? 10 c).isSome = true) (by decide) (digits c mem)
  rw [List.takeWhile_eq_self_iff.2 known, List.length_filterMap_eq_countP]
  exact List.countP_eq_length.2 known

/-- Decimal digits are a whole number, unless there are too many of them. -/
theorem readInteger_of_digits (ne : run ≠ []) {fault : NumeralFault}
    (h : readInteger 10 run = .error fault) :
    fault = .tooManyDigits run.length ∧ digitLimit < run.length := by
  have length := length_digits digits
  have some_digit :
      ((run.takeWhile fun c => (digitIn? 10 c).isSome).filterMap (digitIn? 10)).isEmpty = false := by
    rw [List.isEmpty_eq_false_iff, ← List.length_pos_iff, length]
    exact List.length_pos_iff.2 ne
  simp only [readInteger, unpadded_of_digits digits, splitSign_of_digits digits, dropBaseMark_ten,
    length, some_digit, Nat.lt_irrefl] at h
  split at h
  · rename_i many
    cases h
    simp only [List.contains_eq_mem, List.mem_cons, List.not_mem_nil, Bool.and_eq_true,
      decide_eq_true_eq] at many
    exact ⟨rfl, many.1⟩
  · simp at h

end Digits

end ActionRehearsal.Number
