/-!
# Reading UTF-8

`decodeUtf8` reads a sequence of bytes as strict UTF-8. At the first place where that is
impossible it reports which bytes are at fault and why: a byte that starts no character, a byte
that cannot continue the one begun, or an end of the data inside a character.
-/

set_option autoImplicit false

namespace ActionRehearsal.Text

/-- Why bytes are not UTF-8. -/
inductive Utf8Cause where
  | invalidStart
  | invalidContinuation
  | unexpectedEnd
  deriving DecidableEq

/-- The first fault in a sequence of bytes: `count` bytes from `position` on are at fault, of
which the first is `byte`. -/
structure Utf8Fault where
  cause : Utf8Cause
  byte : UInt8
  position : Nat
  count : Nat
  deriving DecidableEq

/-- How a character begins: how many bytes follow the first, which bytes the second may be, and
the bits of the first byte. -/
structure Utf8Lead where
  more : Nat
  low : Nat
  high : Nat
  bits : Nat

/-- The kind of character that a byte above 0x7F starts. -/
def Utf8Lead.of? (b : Nat) : Option Utf8Lead :=
  if 0xC2 ≤ b && b ≤ 0xDF then some ⟨1, 0x80, 0xBF, b - 0xC0⟩
  else if b == 0xE0 then some ⟨2, 0xA0, 0xBF, 0⟩
  else if b == 0xED then some ⟨2, 0x80, 0x9F, 0xD⟩
  else if 0xE1 ≤ b && b ≤ 0xEF then some ⟨2, 0x80, 0xBF, b - 0xE0⟩
  else if b == 0xF0 then some ⟨3, 0x90, 0xBF, 0⟩
  else if 0xF1 ≤ b && b ≤ 0xF3 then some ⟨3, 0x80, 0xBF, b - 0xF0⟩
  else if b == 0xF4 then some ⟨3, 0x80, 0x8F, 4⟩
  else none

/-- Reads `more` continuation bytes of which the first lies between `low` and `high`. Gives the
code point with what follows, or the cause of failure with the number of bytes read before it. -/
def continuation (more low high value read : Nat) :
    List UInt8 → Except (Utf8Cause × Nat) (Nat × List UInt8)
  | [] => if more = 0 then .ok (value, []) else .error (.unexpectedEnd, read)
  | b :: rest =>
    match more with
    | 0 => .ok (value, b :: rest)
    | more + 1 =>
      if low ≤ b.toNat && b.toNat ≤ high then
        continuation more 0x80 0xBF (value * 64 + (b.toNat - 0x80)) (read + 1) rest
      else .error (.invalidContinuation, read)

/-- Reads the characters of `bytes`, which start at `position` of the whole data; `room` bounds
their number. -/
def decodeFrom (room position : Nat) (bytes : List UInt8) : Except Utf8Fault (List Char) :=
  match room, bytes with
  | 0, _ => .ok []
  | _, [] => .ok []
  | room + 1, b :: rest =>
    if b.toNat < 0x80 then
      (decodeFrom room (position + 1) rest).map (Char.ofNat b.toNat :: ·)
    else match Utf8Lead.of? b.toNat with
      | none => .error ⟨.invalidStart, b, position, 1⟩
      | some lead =>
        match continuation lead.more lead.low lead.high lead.bits 1 rest with
        | .error (cause, read) => .error ⟨cause, b, position, read⟩
        | .ok (value, after) =>
          (decodeFrom room (position + lead.more + 1) after).map (Char.ofNat value :: ·)

/-- The text that the bytes encode. -/
def decodeUtf8 (bytes : List UInt8) : Except Utf8Fault String :=
  (decodeFrom bytes.length 0 bytes).map String.ofList

/-- Whether the bytes encode a text, and which. -/
def decodeUtf8? (bytes : List UInt8) : Option String := (decodeUtf8 bytes).toOption

/-- The wording of a cause. -/
def Utf8Cause.message : Utf8Cause → String
  | .invalidStart => "invalid start byte"
  | .invalidContinuation => "invalid continuation byte"
  | .unexpectedEnd => "unexpected end of data"

/-- The wording of a fault: the byte at fault, or where the several bytes stand. -/
def Utf8Fault.message (fault : Utf8Fault) : String :=
  let place :=
    if fault.count = 1 then
      "byte 0x" ++ String.ofList (hexByte fault.byte) ++ " in position " ++ toString fault.position
    else
      "bytes in position " ++ toString fault.position ++ "-"
        ++ toString (fault.position + fault.count - 1)
  "'utf-8' codec can't decode " ++ place ++ ": " ++ fault.cause.message
where
  /-- The two hexadecimal digits of a byte. -/
  hexByte (b : UInt8) : List Char :=
    [Nat.digitChar (b.toNat / 16), Nat.digitChar (b.toNat % 16)]

end ActionRehearsal.Text
