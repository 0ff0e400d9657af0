import ActionRehearsal.Text.Blank
import ActionRehearsal.Text.Digit
import ActionRehearsal.Text.Quoted
import ActionRehearsal.Number.Binary64
/-!
# Reading numerals

`readInteger` reads a whole number in a given base, `readBinary64` a decimal numeral with an
optional point and exponent, `inf` or `nan`. Both allow white space around the numeral, one
sign before it and the decimal digits of any script. A numeral in a base that is no power of two
has at most `digitLimit` digits.
-/

set_option autoImplicit false

namespace ActionRehearsal.Number

open ActionRehearsal.Text

/-- The greatest number of digits of a whole number in a base that is no power of two. -/
def digitLimit : Nat := 4300

/-- Why a text is not a numeral. -/
inductive NumeralFault where
  | notAnInteger (base : Nat) (text : String)
  | notANumber (text : String)
  | tooManyDigits (count : Nat)
  deriving DecidableEq

/-- The wording of a fault. Of a long text that is no integer only the first 200 characters of
its quoted form are shown. -/
def NumeralFault.message : NumeralFault → String
  | .notAnInteger base text =>
    "invalid literal for int() with base " ++ toString base ++ ": "
      ++ String.ofList ((quoted text).toList.take 200)
  | .notANumber text => "could not convert string to float: " ++ quoted text
  | .tooManyDigits count =>
    "Exceeds the limit (" ++ toString digitLimit
      ++ " digits) for integer string conversion: value has " ++ toString count
      ++ " digits; use sys.set_int_max_str_digits() to increase the limit"

/-- Whether a character may stand around a numeral: white space, but no information separator. -/
def isPadding (c : Char) : Bool := isBlank c && !(0x1C ≤ c.toNat && c.toNat ≤ 0x1F)

/-- The text without the white space around it. -/
def unpadded (s : List Char) : List Char :=
  ((s.dropWhile isPadding).reverse.dropWhile isPadding).reverse

/-- The value of a digit or letter in bases up to 36. -/
def placeValue? (c : Char) : Option Nat :=
  if 'a' ≤ c && c ≤ 'z' then some (c.toNat - 'a'.toNat + 10)
  else if 'A' ≤ c && c ≤ 'Z' then some (c.toNat - 'A'.toNat + 10)
  else digitValue? c

/-- The value of a character as a digit of the base. -/
def digitIn? (base : Nat) (c : Char) : Option Nat :=
  (placeValue? c).bind fun v => if v < base then some v else none

/-- A sign at the start of a text: whether it is a minus, and what follows. -/
def splitSign : List Char → Bool × List Char
  | '-' :: s => (true, s)
  | '+' :: s => (false, s)
  | s => (false, s)

/-- What follows the letter that may announce the base, as in `0x1F` for base 16. -/
def dropBaseMark (base : Nat) : List Char → List Char
  | '0' :: c :: s =>
    let marks := if base = 2 then ['b', 'B'] else if base = 8 then ['o', 'O']
      else if base = 16 then ['x', 'X'] else []
    if marks.contains c then s else '0' :: c :: s
  | s => s

/-- The number that a sequence of digits of the base stands for. -/
def valueInBase (base : Nat) (digits : List Nat) : Nat :=
  digits.foldl (fun value d => value * base + d) 0

/-- The whole number that a text stands for in the base. -/
def readInteger (base : Nat) (text : List Char) : Except NumeralFault Int :=
  let (negative, body) := splitSign (unpadded text)
  let body := dropBaseMark base body
  let digits := (body.takeWhile fun c => (digitIn? base c).isSome).filterMap (digitIn? base)
  if digitLimit < digits.length && !([2, 4, 8, 16, 32].contains base) then
    .error (.tooManyDigits digits.length)
  else if digits.isEmpty || digits.length < body.length then
    .error (.notAnInteger base (String.ofList text))
  else
    let magnitude : Int := valueInBase base digits
    .ok (if negative then -magnitude else magnitude)

/-- An exponent after the letter `e`: at least one digit after an optional sign. -/
def readExponent? (s : List Char) : Option Int :=
  let (negative, body) := splitSign s
  let digits := body.filterMap digitValue?
  if digits.isEmpty || digits.length < body.length then none
  else
    let magnitude : Int := valueInBase 10 digits
    some (if negative then -magnitude else magnitude)

/-- A decimal numeral without a sign: digits, then optionally a point with digits, then
optionally an exponent; at least one digit stands before the exponent. -/
def readDecimal? (negative : Bool) (s : List Char) : Option Binary64 :=
  let isDigit := fun c => (digitValue? c).isSome
  let whole := s.takeWhile isDigit
  let afterWhole := s.dropWhile isDigit
  let (fraction, rest) := match afterWhole with
    | '.' :: r => (r.takeWhile isDigit, r.dropWhile isDigit)
    | r => ([], r)
  let exponent? : Option Int := match rest with
    | [] => some 0
    | c :: r => if c = 'e' || c = 'E' then readExponent? r else none
  if whole.isEmpty && fraction.isEmpty then none
  else exponent?.map fun exponent =>
    Binary64.ofDecimal negative (valueInBase 10 ((whole ++ fraction).filterMap digitValue?))
      (exponent - fraction.length)

/-- The floating-point number that a text stands for. -/
def readBinary64 (text : List Char) : Except NumeralFault Binary64 :=
  let (negative, body) := splitSign (unpadded text)
  let word := String.ofList (body.map Char.toLower)
  if word == "inf" || word == "infinity" then .ok (.infinite negative)
  else if word == "nan" then .ok (.nan 0)
  else match readDecimal? negative body with
    | some x => .ok x
    | none => .error (.notANumber (String.ofList text))

end ActionRehearsal.Number
