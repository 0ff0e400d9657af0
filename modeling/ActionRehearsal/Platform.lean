/-!
# Platforms

A `Platform` settles what a text leaves open. A document may write a half of a surrogate pair as an
escape, but no `Char` is one: a platform has characters that stand for the halves, one for each.
Which ones these are makes no difference as long as nothing else that is read holds them. A platform
also bounds how many collections of a document may be open at once.
-/

set_option autoImplicit false

namespace ActionRehearsal

/-- The number of halves of surrogate pairs. -/
def halfCount : Nat := 0x800

/-- A half of a surrogate pair, counted from the first one. -/
abbrev Half : Type := Fin halfCount

namespace Half

/-- The half that a number stands for if the halves are numbered from `first` on. -/
def numberedFrom? (first n : Nat) : Option Half :=
  if h : first ≤ n ∧ n - first < halfCount then some ⟨n - first, h.2⟩ else none

theorem numberedFrom?_eq_some_iff {first n : Nat} {half : Half} :
    numberedFrom? first n = some half ↔ first + half = n := by
  rw [numberedFrom?]
  constructor
  · intro found
    split at found
    · rename_i range
      obtain rfl := Option.some.inj found
      exact Nat.add_sub_cancel' range.1
    · cases found
  · rintro rfl
    have here : first + half.val - first = half.val := Nat.add_sub_cancel_left _ _
    have range : first ≤ first + half.val ∧ first + half.val - first < halfCount :=
      ⟨Nat.le_add_right _ _, Nat.lt_of_le_of_lt (Nat.le_of_eq here) half.isLt⟩
    rw [dif_pos range]
    exact congrArg some (Fin.ext here)

/-- The code point of the first half. -/
def firstCodePoint : Nat := 0xD800

/-- The code point of a half. -/
def codePoint (half : Half) : Nat := firstCodePoint + half

/-- The half with a code point, if there is one. -/
def ofCodePoint? (n : Nat) : Option Half := numberedFrom? firstCodePoint n

end Half

/-- What a text leaves open: the characters that stand for halves of surrogate pairs, and how many
collections may be open at once. -/
class Platform where
  standIn : Half → Char
  half? : Char → Option Half
  half?_eq_some_iff : ∀ c half, half? c = some half ↔ standIn half = c
  nesting : Nat

/-! ## The usual platform -/

/-- The code point of the first stand-in on the usual platform, at the end of what is for private
use. -/
def firstStandIn : Nat := 0x10F800

theorem isValidChar_standIn (half : Half) : (firstStandIn + half).isValidChar := by
  have bound : half.val < 0x800 := half.isLt
  refine .inr ⟨?_, ?_⟩
  · show 0xDFFF < 0x10F800 + half.val
    omega
  · show 0x10F800 + half.val < 0x110000
    omega

/-- The platform whose stand-ins are the last characters for private use. -/
instance usualPlatform : Platform where
  standIn half := Char.ofNatAux (firstStandIn + half) (isValidChar_standIn half)
  half? c := Half.numberedFrom? firstStandIn c.toNat
  half?_eq_some_iff c half := by
    rw [Half.numberedFrom?_eq_some_iff, ← Char.toNat_inj]
    exact Iff.rfl
  nesting := 480

end ActionRehearsal
