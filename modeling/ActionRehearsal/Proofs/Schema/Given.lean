import ActionRehearsal.Proofs.Schema.Check
import ActionRehearsal.Schema.Action

/-!
# Which values are read as the empty text

Two questions can be asked of a raw value: whether it counts as given (`Value.isGiven`), and whether the
text that it is read as is empty. They part at `false` and at zero, which do not count as given and are
read as `false`, `0` and `0.0` (`Value.isFalseOrZero`).

The main statement, `textOrEmpty_ne_empty_iff`, is that they part nowhere else. Behind it are three facts
about texts that are made of other values: no number has an empty text (`Binary64.text_ne_empty`), no whole
number (`toString_int_ne_empty`), and bytes that encode the empty text are no bytes
(`decodeUtf8?_eq_some_empty_iff`).
-/

set_option autoImplicit false

namespace ActionRehearsal

/-! ## Texts of numbers -/

theorem toString_int_ne_empty (n : Int) : toString n ≠ "" := by
  cases n with
  | ofNat n => simp [toString, Int.repr]
  | negSucc n => simp [toString, Int.repr]

namespace Number

/-- A decimal has a point or an exponent. -/
theorem Decimal.text_ne_empty (d : Decimal) : d.text ≠ "" := by
  have right (s t : String) (ne : t ≠ "") : s ++ t ≠ "" := fun empty =>
    ne (String.append_eq_empty_iff.1 empty).2
  have left (s t : String) (ne : s ≠ "") : s ++ t ≠ "" := fun empty =>
    ne (String.append_eq_empty_iff.1 empty).1
  rw [Decimal.text]
  -- the point stands before, behind or among the digits; a number far from one has an exponent
  split
  · split
    · exact right _ _ (by decide)
    · split
      · intro empty
        rw [String.ofList_eq_empty_iff] at empty
        simp at empty
      · exact left _ _ (by decide)
  · exact left _ _ (right _ _ (by decide))

theorem Binary64.text_ne_empty (x : Binary64) : x.text ≠ "" := by
  cases x with
  | nan mark => exact (by decide : "nan" ≠ "")
  | infinite negative =>
      cases negative with
      | true => decide
      | false => decide
  | finite negative significand exponent =>
      have magnitude_ne (d : Decimal) : (if significand = 0 then "0.0" else d.text) ≠ "" := by
        split
        · decide
        · exact d.text_ne_empty
      rw [Binary64.text]
      cases negative with
      | true =>
          intro empty
          exact magnitude_ne _ (String.append_eq_empty_iff.1 empty).2
      | false => exact magnitude_ne _

end Number

/-! ## Bytes -/

namespace Text

/-- Every character takes a byte at least. -/
theorem decodeFrom_ne_nil {room position : Nat} {b : UInt8} {rest : List UInt8} :
    decodeFrom (room + 1) position (b :: rest) ≠ .ok [] := by
  intro empty
  rw [decodeFrom] at empty
  split at empty
  · obtain ⟨_, -, same⟩ := Schema.Checked.map_eq_ok_iff.1 empty
    cases same
  · split at empty
    · cases empty
    · split at empty
      · cases empty
      · obtain ⟨_, -, same⟩ := Schema.Checked.map_eq_ok_iff.1 empty
        cases same

theorem decodeUtf8?_eq_some_empty_iff {bytes : List UInt8} :
    decodeUtf8? bytes = some "" ↔ bytes = [] := by
  constructor
  · intro decoded
    cases bytes with
    | nil => rfl
    | cons b rest =>
        cases read : decodeFrom (rest.length + 1) 0 (b :: rest) with
        | error fault => simp [decodeUtf8?, decodeUtf8, read, Except.map, Except.toOption] at decoded
        | ok chars =>
            have empty : chars = [] := by
              simpa [decodeUtf8?, decodeUtf8, read, Except.map, Except.toOption] using decoded
            exact absurd (empty ▸ read) decodeFrom_ne_nil
  · rintro rfl
    rfl

end Text

/-! ## Values -/

/-- Whether a value is `false` or zero: it does not count as given, and its text is not empty. -/
def Value.isFalseOrZero : Value → Bool
  | .bool b => !b
  | .int n => n == 0
  | .float x => x.isZero
  | _ => false

theorem Value.isGiven_of_isFalseOrZero {v : Value} (h : v.isFalseOrZero = true) :
    v.isGiven = false := by
  cases v with
  | scalar scalar =>
      cases scalar with
      | bool b => simpa [isGiven, isFalseOrZero] using h
      | int n => simpa [isGiven, isFalseOrZero] using h
      | float x => simpa [isGiven, isFalseOrZero] using h
      | null | text | bytes | date | moment => cases h
  | list | map | tuple | set => cases h

namespace Schema

open Checked

/-- Bytes are read as the text that they encode. -/
theorem text_bytes_eq_ok_iff {bs : List UInt8} {s : String} :
    text (.bytes bs) = .ok s ↔ Text.decodeUtf8? bs = some s := by
  rw [text]
  cases Text.decodeUtf8? bs with
  | none => simp [refused]
  | some decoded => simp

/-- A value is read as a text that is not empty exactly if it is given, false or zero. -/
theorem textOrEmpty_ne_empty_iff {v : Value} {s : String} (read : textOrEmpty v = .ok s) :
    s ≠ "" ↔ v.isGiven = true ∨ v.isFalseOrZero = true := by
  cases v with
  | scalar scalar =>
      cases scalar with
      | null =>
          cases read
          simp [Value.isGiven, Value.isFalseOrZero]
      | bool b =>
          cases read
          cases b with
          | true => simp [Value.isGiven]
          | false => simp [Value.isFalseOrZero]
      | int n =>
          simp only [textOrEmpty, looseText, stringified] at read
          -- a number with too many digits has no text, and is not read
          split at read
          · cases read
          · cases read
            refine iff_of_true (toString_int_ne_empty n) ?_
            by_cases zero : n = 0
            · exact .inr (beq_iff_eq.2 zero)
            · exact .inl (bne_iff_ne.2 zero)
      | float x =>
          cases read
          refine iff_of_true x.text_ne_empty ?_
          simp only [Value.isGiven, Value.isFalseOrZero]
          cases x.isZero with
          | true => exact .inr rfl
          | false => exact .inl rfl
      | text s =>
          cases read
          simp [Value.isGiven, Value.isFalseOrZero]
      | bytes bs =>
          have decoded : Text.decodeUtf8? bs = some s := text_bytes_eq_ok_iff.1 read
          -- bytes are given if there are any, so both sides deny that there are none
          simp only [Value.isGiven, Value.isFalseOrZero, Bool.false_eq_true, or_false]
          rw [← not_iff_not, not_not, Bool.not_eq_true, Bool.not_eq_false', List.isEmpty_iff,
            ← Text.decodeUtf8?_eq_some_empty_iff, decoded, Option.some_inj]
      | date | moment => cases read
  | list | map | tuple | set => cases read

end Schema

end ActionRehearsal
