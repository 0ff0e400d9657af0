import ActionRehearsal.Platform
import ActionRehearsal.Text.Quoted
/-!
# Encodings of written text

An `Encoding` says which characters can be written. A text with another character cannot be written
as it is: writing it fails with an `EncodingFault`, which tells the first run of such characters, or
they are replaced by their code points. Halves of surrogate pairs are what UTF-8 does not take.
-/

set_option autoImplicit false

namespace ActionRehearsal.Text

/-- An encoding: its name, the characters that it takes, and why it does not take others. -/
structure Encoding where
  name : String
  takes : Char → Bool
  reason : String

/-- Why a text was not written: the characters from `first` to `last` are not taken, of which the
first has the code point. -/
structure EncodingFault where
  encoding : String
  reason : String
  codePoint : Nat
  first : Nat
  last : Nat
  deriving DecidableEq

/-- The wording of a fault. -/
def EncodingFault.message (fault : EncodingFault) : String :=
  "'" ++ fault.encoding ++ "' codec can't encode character"
    ++ (if fault.first = fault.last then
        " '" ++ String.ofList (escapedCodePoint fault.codePoint) ++ "' in position "
          ++ toString fault.first
      else "s in position " ++ toString fault.first ++ "-" ++ toString fault.last)
    ++ ": " ++ fault.reason

/-- The code point that a character stands for. -/
def codePointOf [Platform] (c : Char) : Nat :=
  match Platform.half? c with
  | some half => half.codePoint
  | none => c.toNat

namespace Encoding

/-- The encoding of all characters, of which halves of surrogate pairs are none. -/
def utf8 [Platform] : Encoding :=
  ⟨"utf-8", fun c => (Platform.half? c).isNone, "surrogates not allowed"⟩

/-- Whether a text can be written. -/
def takesAll (e : Encoding) (text : String) : Bool := text.toList.all e.takes

/-- The fault of a text that cannot be written: its first run of characters that are not taken. -/
def faultOf? [Platform] (e : Encoding) (text : String) : Option EncodingFault :=
  match text.toList.dropWhile e.takes with
  | [] => none
  | c :: rest =>
    let first := (text.toList.takeWhile e.takes).length
    some ⟨e.name, e.reason, codePointOf c, first, first + (rest.takeWhile (!e.takes ·)).length⟩

/-- The text in which every character that is not taken is replaced by its code point. -/
def replaced [Platform] (e : Encoding) (text : String) : String :=
  String.ofList (text.toList.flatMap fun c =>
    if e.takes c then [c] else escapedCodePoint (codePointOf c))

end Encoding

end ActionRehearsal.Text
