/-!
# Base64

`decodeBase64?` reads bytes written in groups of four characters of six bits each. Characters
outside the alphabet are passed over, and reading stops where the padding is complete. An
incomplete last group is refused.
-/

set_option autoImplicit false

namespace ActionRehearsal.Text

/-- The six bits that a character stands for. -/
def base64Bits? (c : Char) : Option Nat :=
  if 'A' ≤ c && c ≤ 'Z' then some (c.toNat - 'A'.toNat)
  else if 'a' ≤ c && c ≤ 'z' then some (c.toNat - 'a'.toNat + 26)
  else if c.isDigit then some (c.toNat - '0'.toNat + 52)
  else if c = '+' then some 62
  else if c = '/' then some 63
  else none

/-- A group of four characters in progress: how many have been read, the bits not yet written, and
the padding characters since the last of them. -/
structure Base64Group where
  count : Nat
  bits : Nat
  pads : Nat

/-- Reads characters from inside a group on. -/
def base64From (group : Base64Group) : List Char → Option (List UInt8)
  | [] => if group.count = 0 then some [] else none
  | c :: rest =>
    if c = '=' then
      if 2 ≤ group.count then
        if 4 ≤ group.count + group.pads + 1 then some []
        else base64From { group with pads := group.pads + 1 } rest
      else base64From group rest
    else match base64Bits? c with
      | none => base64From group rest
      | some v => match group.count with
        | 0 => base64From ⟨1, v, 0⟩ rest
        | 1 => (base64From ⟨2, v % 16, 0⟩ rest).map ((group.bits * 4 + v / 16).toUInt8 :: ·)
        | 2 => (base64From ⟨3, v % 4, 0⟩ rest).map ((group.bits * 16 + v / 4).toUInt8 :: ·)
        | _ => (base64From ⟨0, 0, 0⟩ rest).map ((group.bits * 64 + v).toUInt8 :: ·)

/-- The bytes that a text stands for. -/
def decodeBase64? (s : List Char) : Option (List UInt8) := base64From ⟨0, 0, 0⟩ s

end ActionRehearsal.Text
